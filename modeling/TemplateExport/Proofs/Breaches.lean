import TemplateExport.Config.Rules
import TemplateExport.Proofs.Symbols
import Mathlib.Data.List.Infix

namespace TemplateExport

def breachIf (broken : Prop) [Decidable broken] (p : Problem) : List Problem :=
  if broken then [p] else []

def identifierBreaches (field value : String) : List Problem :=
  breachIf (value = "") (.invalidValue field value .emptyName) ++
    breachIf (value ≠ "" ∧ ¬isIdentifier value) (.invalidValue field value .notIdentifier) ++
    breachIf (isReservedWord value) (.invalidValue field value .reservedWord)

def blankBreaches (field value : String) : List Problem :=
  breachIf (isBlankText value) (.invalidValue field value .blankText)

def emptyBreaches {α : Type} (field : String) (values : List α) : List Problem :=
  breachIf (values.isEmpty) (.invalidValue field "[]" .emptyList)

/-- Every value with those before it. -/
def withEarlier {α : Type} (values : List α) : List (List α × α) :=
  values.inits.zip values

/-- The first value that stands among those before it. -/
def repeatBreaches (field : String) (values : List String) : List Problem :=
  ((withEarlier values).find? fun x => x.2 ∈ x.1).toList.map fun x =>
    .invalidValue field x.2 .repeatedName

/-- The breaches of the values one after another, each with its place in the list. -/
def eachBreaches {α : Type} (values : List α) (breaches : Nat → α → List Problem) :
    List Problem :=
  values.zipIdx.flatMap fun (value, i) => breaches i value

def TypeParameter.breaches (field : String) (p : TypeParameter) : List Problem :=
  identifierBreaches (field ++ ".name") p.name ++
    emptyBreaches (field ++ ".types") p.types ++
    p.types.flatMap (blankBreaches (field ++ ".types"))

def Argument.breaches (field : String) (typeNames : List String) (a : Argument) : List Problem :=
  blankBreaches (field ++ ".type") a.type ++
    match a.name with
    | none => [.missingField (field ++ ".name")]
    | some name =>
      identifierBreaches (field ++ ".name") name ++
        breachIf (name ∈ typeNames)
          (.invalidValue (field ++ ".name") name .shadowsTypeParameter)

/-- A parameter without a name repeats no other one. -/
def FunctionTemplate.breaches (field : String) (f : FunctionTemplate) : List Problem :=
  identifierBreaches (field ++ ".name") f.name ++
    emptyBreaches (field ++ ".templates") f.typeParameters ++
    eachBreaches f.typeParameters (fun i p => p.breaches (place (field ++ ".templates") i)) ++
    repeatBreaches (field ++ ".templates") f.typeNames ++
    blankBreaches (field ++ ".return.type") f.returns.type ++
    eachBreaches f.parameters
      (fun i a => a.breaches (place (field ++ ".parameters") i) f.typeNames) ++
    repeatBreaches (field ++ ".parameters") (f.parameters.filterMap (·.name))

def suffixBreaches (type suffix : String) : List Problem :=
  blankBreaches "suffix-mapping" type ++
    breachIf (suffix = "" ∨ ¬suffix.toList.all isNamePart)
      (.invalidValue ("suffix-mapping." ++ type) suffix .suffixAlphabet)

/-- What a function asks for: a name for each wrapper, or lists that can be paired. -/
def FunctionTemplate.requests (m : SuffixMapping) (f : FunctionTemplate) :
    List (Except Problem String) :=
  match f.unevenness? with
  | some problem => [.error problem]
  | none => f.exports.map fun w => .ok (w.name m)

def requestBreaches (used : List String) : Except Problem String → List Problem
  | .error problem => [problem]
  | .ok name =>
    breachIf (¬isIdentifier name) (.symbol (.notIdentifier name)) ++
      breachIf (name ∈ used) (.symbol (.repeated name))

/-- Every name must be an identifier and none of those in use or asked for before it. -/
def symbolBreaches (used : List String) (requests : List (Except Problem String)) :
    List Problem :=
  (withEarlier requests).flatMap fun x =>
    requestBreaches (used ++ x.1.filterMap Except.toOption) x.2

def linkageBreaches : Option String → List Problem
  | none => [.missingField "linkage-macro"]
  | some name => identifierBreaches "linkage-macro" name

/-- All breaches of the rules, in the order of the rules. -/
def Config.breaches (c : Config) : List Problem :=
  linkageBreaches c.linkageName ++
    eachBreaches c.includes (fun i included => blankBreaches (place "includes" i) included) ++
    (c.suffixes.overrides.entries.flatMap fun (type, suffix) => suffixBreaches type suffix) ++
    emptyBreaches "functions" c.functions ++
    eachBreaches c.functions (fun i f => f.breaches (place "functions" i)) ++
    symbolBreaches [] (c.functions.flatMap (·.requests c.suffixes))

/-- The check that fails with the first of some breaches. -/
def firstOf : List Problem → Check
  | [] => .ok ()
  | p :: _ => .error p

theorem firstOf_append (xs ys : List Problem) :
    firstOf (xs ++ ys) = firstOf xs >>= fun _ => firstOf ys := by
  cases xs <;> rfl

theorem firstOf_append_congr {xs ys zs : List Problem}
    (h : xs = [] → firstOf ys = firstOf zs) : firstOf (xs ++ ys) = firstOf (xs ++ zs) := by
  cases xs with
  | nil => exact h rfl
  | cons p rest => rfl

theorem firstOf_breachIf (broken : Prop) [Decidable broken] (p : Problem) :
    firstOf (breachIf broken p) = if broken then .error p else .ok () := by
  by_cases h : broken <;> simp [breachIf, h, firstOf]

theorem firstOf_flatMap {α : Type} (breaches : α → List Problem) (xs : List α) :
    firstOf (xs.flatMap breaches) = xs.forM fun x => firstOf (breaches x) := by
  induction xs with
  | nil => rfl
  | cons x rest ih =>
    rw [List.flatMap_cons, firstOf_append, ih]
    rfl

theorem firstOf_eq_ok_iff {xs : List Problem} : firstOf xs = .ok () ↔ xs = [] := by
  cases xs <;> simp [firstOf]

theorem firstOf_eq_error_iff {xs : List Problem} {p : Problem} :
    firstOf xs = .error p ↔ xs.head? = some p := by
  cases xs <;> simp [firstOf]

theorem checkIdentifier_eq (field value : String) :
    checkIdentifier field value = firstOf (identifierBreaches field value) := by
  simp only [checkIdentifier, identifierBreaches, firstOf_append, firstOf_breachIf,
    String.isEmpty_iff]
  by_cases he : value = ""
  · simp [he, bind, Except.bind]
  · by_cases hi : isIdentifier value = true
    · by_cases hr : isReservedWord value = true <;> simp [he, hi, hr, bind, Except.bind]
    · simp [he, hi, bind, Except.bind]

theorem checkNotEmpty_eq {α : Type} (field : String) (values : List α) :
    checkNotEmpty field values = firstOf (emptyBreaches field values) := by
  rw [emptyBreaches, firstOf_breachIf, checkNotEmpty]

theorem checkNotBlank_eq (field value : String) :
    checkNotBlank field value = firstOf (blankBreaches field value) := by
  rw [blankBreaches, firstOf_breachIf, checkNotBlank]

theorem withEarlier_cons {α : Type} (x : α) (rest : List α) :
    withEarlier (x :: rest) = ([], x) :: (withEarlier rest).map (Prod.map (x :: ·) id) := by
  rw [withEarlier, List.inits_cons, List.zip_cons_cons, List.zip_map_left]
  rfl

/-- The walk remembers what it has seen: that is what stands before a value. -/
theorem firstRepeated?_eq (seen values : List String) :
    firstRepeated? seen values =
      ((withEarlier values).find? fun x => x.2 ∈ seen ∨ x.2 ∈ x.1).map (·.2) := by
  induction values generalizing seen with
  | nil => rfl
  | cons value rest ih =>
    rw [withEarlier_cons, List.find?_cons, List.find?_map, firstRepeated?, ih]
    by_cases hs : value ∈ seen
    · simp [hs]
    · have moved : ∀ x : List String × String,
          (x.2 ∈ value :: seen ∨ x.2 ∈ x.1) ↔ (x.2 ∈ seen ∨ x.2 ∈ value :: x.1) := by
        intro x
        simp only [List.mem_cons]
        tauto
      simp only [hs, moved, List.contains_iff_mem, List.not_mem_nil, or_false, decide_false,
        if_false, Option.map_map]
      rfl

theorem checkUnique_eq (field : String) (values : List String) :
    checkUnique field values = firstOf (repeatBreaches field values) := by
  have first := firstRepeated?_eq [] values
  simp only [List.not_mem_nil, false_or] at first
  rw [checkUnique, first, repeatBreaches]
  cases (withEarlier values).find? fun x => x.2 ∈ x.1 <;> rfl

theorem checkEach_eq {α : Type} {check : Nat → α → Check} {breaches : Nat → α → List Problem}
    (h : ∀ i x, check i x = firstOf (breaches i x)) (values : List α) :
    checkEach check values = firstOf (eachBreaches values breaches) := by
  rw [eachBreaches, firstOf_flatMap, checkEach]
  simp only [h]

theorem TypeParameter.check_eq (field : String) (p : TypeParameter) :
    p.check field = firstOf (p.breaches field) := by
  have blank : checkNotBlank (field ++ ".types") =
      fun type => firstOf (blankBreaches (field ++ ".types") type) :=
    funext (checkNotBlank_eq _)
  simp only [check, breaches, firstOf_append, firstOf_flatMap, checkIdentifier_eq,
    checkNotEmpty_eq, blank, bind_assoc]

theorem Argument.checkParameter_eq (field : String) (typeNames : List String) (a : Argument) :
    a.checkParameter field typeNames = firstOf (a.breaches field typeNames) := by
  rw [checkParameter, breaches, firstOf_append, checkNotBlank_eq]
  cases a.name with
  | none => rfl
  | some name =>
    simp only [firstOf_append, firstOf_breachIf, checkIdentifier_eq, List.contains_iff_mem]
    rfl

theorem checkSuffix_eq (type suffix : String) :
    checkSuffix type suffix = firstOf (suffixBreaches type suffix) := by
  have outside : (!isSuffixText suffix) = true ↔
      suffix = "" ∨ ¬suffix.toList.all isNamePart := by
    simp [isSuffixText]
  simp only [checkSuffix, suffixBreaches, firstOf_append, checkNotBlank_eq, firstOf_breachIf,
    outside]
  rfl

/-- With a name to every parameter, the labels are the names. -/
theorem labels_eq_names {parameters : List Argument} (h : ∀ a ∈ parameters, a.name ≠ none) :
    parameters.map (·.label) = parameters.filterMap (·.name) := by
  induction parameters with
  | nil => rfl
  | cons a rest ih =>
    obtain ⟨name, hn⟩ := Option.ne_none_iff_exists'.mp (h a (by simp))
    rw [List.map_cons, List.filterMap_cons, ih fun b hb => h b (by simp [hb]), hn]
    simp [Argument.label, hn]

theorem eachBreaches_eq_nil_iff {α : Type} {values : List α}
    {breaches : Nat → α → List Problem} :
    eachBreaches values breaches = [] ↔ ∀ i x, values[i]? = some x → breaches i x = [] := by
  rw [eachBreaches, List.flatMap_eq_nil_iff]
  constructor
  · intro h i x hx
    exact h (x, i) (List.mem_zipIdx_iff_getElem?.mpr hx)
  · intro h x hx
    exact h x.2 x.1 (List.mem_zipIdx_iff_getElem?.mp hx)

theorem FunctionTemplate.check_eq (field : String) (f : FunctionTemplate) :
    f.check field = firstOf (f.breaches field) := by
  have labels : firstOf (f.breaches field) = firstOf
      (identifierBreaches (field ++ ".name") f.name ++
        emptyBreaches (field ++ ".templates") f.typeParameters ++
        eachBreaches f.typeParameters (fun i p => p.breaches (place (field ++ ".templates") i)) ++
        repeatBreaches (field ++ ".templates") f.typeNames ++
        blankBreaches (field ++ ".return.type") f.returns.type ++
        eachBreaches f.parameters
          (fun i a => a.breaches (place (field ++ ".parameters") i) f.typeNames) ++
        repeatBreaches (field ++ ".parameters") (f.parameters.map (·.label))) := by
    refine firstOf_append_congr ?_
    -- an earlier breach hides how the names are counted; without one every parameter has a name
    intro none
    rw [labels_eq_names]
    intro a ha
    obtain ⟨i, hi⟩ := List.mem_iff_getElem?.mp ha
    have := eachBreaches_eq_nil_iff.mp (List.append_eq_nil_iff.mp none).2 i a hi
    intro missing
    simp [Argument.breaches, missing] at this
  rw [labels]
  simp only [firstOf_append, check, checkIdentifier_eq, checkNotEmpty_eq, checkNotBlank_eq,
    checkUnique_eq, bind_assoc,
    checkEach_eq fun i p => TypeParameter.check_eq (place (field ++ ".templates") i) p,
    checkEach_eq fun i a =>
      Argument.checkParameter_eq (place (field ++ ".parameters") i) f.typeNames a]

theorem symbolBreaches_error (used : List String) (p : Problem)
    (rest : List (Except Problem String)) :
    symbolBreaches used (.error p :: rest) = p :: symbolBreaches used rest := by
  rw [symbolBreaches, withEarlier_cons, List.flatMap_cons, List.flatMap_map]
  rfl

theorem symbolBreaches_ok (used : List String) (name : String)
    (rest : List (Except Problem String)) :
    symbolBreaches used (.ok name :: rest) =
      requestBreaches used (.ok name) ++ symbolBreaches (used ++ [name]) rest := by
  rw [symbolBreaches, withEarlier_cons, List.flatMap_cons, List.flatMap_map, symbolBreaches]
  simp [Except.toOption]

/-- Claiming the names of one function meets their breaches and leaves those behind them. -/
theorem firstOf_symbolBreaches_names (used names : List String)
    (rest : List (Except Problem String)) :
    firstOf (symbolBreaches used (names.map .ok ++ rest)) =
      claimNames used names >>= fun used => firstOf (symbolBreaches used rest) := by
  induction names generalizing used with
  | nil => rfl
  | cons name names ih =>
    rw [List.map_cons, List.cons_append, symbolBreaches_ok, firstOf_append, ih, claimNames,
      requestBreaches, firstOf_append, firstOf_breachIf, firstOf_breachIf]
    by_cases hi : isIdentifier name = true
    · by_cases hu : name ∈ used <;> simp [hi, hu, bind, Except.bind]
    · simp [hi, bind, Except.bind]

theorem firstOf_symbolBreaches_functions (m : SuffixMapping) (used : List String)
    (functions : List FunctionTemplate) :
    firstOf (symbolBreaches used (functions.flatMap (·.requests m))) =
      claimFunctions m used functions >>= fun _ => .ok () := by
  induction functions generalizing used with
  | nil => rfl
  | cons f rest ih =>
    rw [List.flatMap_cons, claimFunctions_cons, FunctionTemplate.requests]
    cases f.unevenness? with
    | some problem => simp [symbolBreaches_error, firstOf, bind, Except.bind]
    | none =>
      have names : f.exports.map (fun w => Except.ok (w.name m)) =
          (f.exports.map (·.name m)).map (Except.ok (ε := Problem)) := by
        rw [List.map_map]
        rfl
      simp only [names, firstOf_symbolBreaches_names, ih, bind_assoc]

namespace Config

/-- The rules for the parts of a configuration: all but the last one, which is on the symbols. -/
def checkParts (c : Config) : Check := do
  match c.linkageName with
  | none => .error (.missingField "linkage-macro")
  | some name => checkIdentifier "linkage-macro" name
  checkEach (fun i included => checkNotBlank (place "includes" i) included) c.includes
  c.suffixes.overrides.entries.forM fun (type, suffix) => checkSuffix type suffix
  checkNotEmpty "functions" c.functions
  checkEach (fun i f => f.check (place "functions" i)) c.functions

theorem validate_eq_checkParts (c : Config) :
    c.validate = c.checkParts >>= fun _ => c.exportedSymbols >>= fun _ => .ok () := by
  simp only [validate, checkParts]
  cases c.linkageName with
  | none => rfl
  | some name =>
    simp only [bind_assoc]
    rfl

/-- The breaches of the rules for the parts, in the order of the rules. -/
def partBreaches (c : Config) : List Problem :=
  linkageBreaches c.linkageName ++
    eachBreaches c.includes (fun i included => blankBreaches (place "includes" i) included) ++
    (c.suffixes.overrides.entries.flatMap fun (type, suffix) => suffixBreaches type suffix) ++
    emptyBreaches "functions" c.functions ++
    eachBreaches c.functions (fun i f => f.breaches (place "functions" i))

theorem breaches_eq (c : Config) : c.breaches =
    c.partBreaches ++ symbolBreaches [] (c.functions.flatMap (·.requests c.suffixes)) :=
  rfl

theorem checkParts_eq (c : Config) : c.checkParts = firstOf c.partBreaches := by
  have suffixes : (fun (x : String × String) => checkSuffix x.1 x.2) =
      fun x => firstOf (suffixBreaches x.1 x.2) :=
    funext fun x => checkSuffix_eq x.1 x.2
  simp only [checkParts, partBreaches, firstOf_append, bind_assoc, firstOf_flatMap,
    checkNotEmpty_eq,
    checkEach_eq fun i included => checkNotBlank_eq (place "includes" i) included,
    checkEach_eq fun i f => FunctionTemplate.check_eq (place "functions" i) f, suffixes]
  cases c.linkageName with
  | none => rfl
  | some name =>
    rw [linkageBreaches, ← checkIdentifier_eq]

theorem validate_eq (c : Config) : c.validate = firstOf c.breaches := by
  rw [validate_eq_checkParts, checkParts_eq, breaches_eq, firstOf_append,
    firstOf_symbolBreaches_functions]
  rfl

end Config

/-- Several rules broken at once. -/
example : (⟨none, [" "], ⟨.empty⟩, []⟩ : Config).breaches =
    [.missingField "linkage-macro", .invalidValue (place "includes" 0) " " .blankText,
      .invalidValue "functions" "[]" .emptyList] :=
  rfl

end TemplateExport
