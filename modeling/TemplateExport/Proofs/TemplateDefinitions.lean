import Mathlib.Data.List.Nodup
import TemplateExport.Proofs.Marks
import TemplateExport.Proofs.Rendering

namespace TemplateExport

def openingBrackets : List Char := ['(', '[', '<', '\x7b']

def closingBrackets : List Char := [')', ']', '>', '\x7d']

/-- How many brackets are open behind a character. None may be closed that is not open, and unless
commas are let pass they have to stand within brackets. -/
def openBehind (commas : Bool) (depth : Nat) (c : Char) : Option Nat :=
  if c ∈ openingBrackets then some (depth + 1)
  else if c ∈ closingBrackets then if depth = 0 then none else some (depth - 1)
  else if depth = 0 ∧ c = ',' ∧ commas = false then none
  else some depth

/-- Every bracket of a text is closed in it. -/
def Balanced (commas : Bool) (text : List Char) : Prop :=
  text.foldlM (openBehind commas) 0 = some 0

instance (commas : Bool) (text : List Char) : Decidable (Balanced commas text) :=
  inferInstanceAs (Decidable (_ = _))

theorem Balanced.append {commas : Bool} {before behind : List Char} (h : Balanced commas before)
    (h' : Balanced commas behind) : Balanced commas (before ++ behind) := by
  rw [Balanced, List.foldlM_append, h]
  exact h'

theorem balanced_of_isNamePart {commas : Bool} {text : List Char}
    (h : ∀ c ∈ text, isNamePart c = true) : Balanced commas text := by
  have marks : (openingBrackets ++ closingBrackets ++ [',']).all (!isNamePart ·) = true := by
    decide
  induction text with
  | nil => rfl
  | cons c rest ih =>
    have plain : c ∉ openingBrackets ++ closingBrackets ++ [','] := by
      intro mark
      have other := List.all_eq_true.mp marks c mark
      simp [h c (by simp)] at other
    simp only [List.mem_append, List.mem_singleton, not_or] at plain
    have kept : openBehind commas 0 c = some 0 := by simp [openBehind, plain]
    rw [Balanced, List.foldlM_cons, kept]
    exact ih fun d hd => h d (by simp [hd])

/-- Within further brackets a text opens and closes the same ones. -/
theorem openBehind_within {commas : Bool} {depth behind : Nat} {c : Char}
    (h : openBehind commas depth c = some behind) (outer : Nat) :
    openBehind true (depth + outer) c = some (behind + outer) := by
  unfold openBehind at h ⊢
  -- what could be refused is a bracket or a comma at depth zero, and `h` says that it was not
  split at h
  next opening =>
    cases Option.some.inj h
    simp [opening]
    omega
  next plain =>
    split at h
    next closing =>
      split at h
      next => cases h
      next inside =>
        cases Option.some.inj h
        have inside' : depth + outer ≠ 0 := by omega
        simp only [plain, closing, inside', if_true, if_false, Option.some.injEq]
        omega
    next open' =>
      split at h
      next => cases h
      next =>
        cases Option.some.inj h
        simp [plain, open']

theorem foldlM_openBehind_within {commas : Bool} {depth behind : Nat} {text : List Char}
    (h : text.foldlM (openBehind commas) depth = some behind) (outer : Nat) :
    text.foldlM (openBehind true) (depth + outer) = some (behind + outer) := by
  induction text generalizing depth with
  | nil =>
    cases Option.some.inj h
    rfl
  | cons c rest ih =>
    obtain ⟨next, first, h⟩ := Option.bind_eq_some_iff.mp h
    rw [List.foldlM_cons, openBehind_within first outer]
    exact ih h

theorem Balanced.listed {commas : Bool} {text : List Char} (h : Balanced commas text) :
    Balanced true text :=
  foldlM_openBehind_within h 0

section

variable {before behind before' behind' : List Char}

/-- A text is divided in one way only at a character that cannot follow a balanced part. -/
theorem balanced_before_unique {commas : Bool} {c : Char} (refused : openBehind commas 0 c = none)
    (h : Balanced commas before) (h' : Balanced commas before')
    (same : before ++ c :: behind = before' ++ c :: behind') :
    before = before' ∧ behind = behind' := by
  have ended {part : List Char} (more : List Char) (balanced : Balanced commas part) :
      ¬Balanced commas (part ++ c :: more) := by
    rw [Balanced, List.foldlM_append, balanced, Option.bind_eq_bind, Option.bind_some,
      List.foldlM_cons, refused]
    exact nofun
  rcases append_cons_eq_append_cons same with here | ⟨more, rfl, -⟩ | ⟨more, rfl, -⟩
  · exact here
  · exact absurd h' (ended more h)
  · exact absurd h (ended more h')

/-- Between two balanced parts an opening bracket stands at one place only: a bracket before it is
closed before it, and the parts behind it leave it open. -/
theorem balanced_around_unique (h : Balanced true before) (h' : Balanced true before')
    (hb : Balanced true behind) (hb' : Balanced true behind')
    (same : before ++ '(' :: behind = before' ++ '(' :: behind') :
    before = before' ∧ behind = behind' := by
  have ended {part more rest : List Char} (first : Balanced true part)
      (longer : Balanced true (part ++ '(' :: more)) (last : Balanced true (more ++ '(' :: rest)) :
      False := by
    have opened : openBehind true 0 '(' = some 1 := rfl
    have closed : more.foldlM (openBehind true) 1 = some 0 := by
      rw [Balanced, List.foldlM_append, first, Option.bind_eq_bind, Option.bind_some,
        List.foldlM_cons, opened] at longer
      exact longer
    rw [Balanced, List.foldlM_append] at last
    obtain ⟨depth, kept, -⟩ := Option.bind_eq_some_iff.mp last
    have open' := foldlM_openBehind_within kept 1
    rw [Nat.zero_add, closed] at open'
    cases open'
  rcases append_cons_eq_append_cons same with here | ⟨more, rfl, parts⟩ | ⟨more, rfl, parts⟩
  · exact here
  · exact (ended h h' (parts ▸ hb)).elim
  · exact (ended h' h (parts ▸ hb')).elim

end

theorem balanced_intercalate {texts : List String} (h : ∀ t ∈ texts, Balanced false t.toList) :
    Balanced true (", ".intercalate texts).toList := by
  induction texts with
  | nil => rfl
  | cons text rest ih =>
    have first := (h text (by simp)).listed
    have more := ih fun t ht => h t (by simp [ht])
    by_cases last : rest = []
    · simpa [last] using first
    · rw [String.intercalate_cons_of_ne_nil last, String.toList_append, String.toList_append]
      exact (first.append (by decide)).append more

theorem intercalate_ended {texts : List String} (h : texts ≠ []) :
    (", ".intercalate texts).toList ++ [',', ' '] =
      texts.flatMap fun t => t.toList ++ [',', ' '] := by
  induction texts with
  | nil => exact absurd rfl h
  | cons text rest ih =>
    by_cases last : rest = []
    · simp [last]
    · rw [String.intercalate_cons_of_ne_nil last, List.flatMap_cons, ← ih last]
      simp [String.toList_append]

theorem ended_inj {texts others : List String} (h : ∀ t ∈ texts, Balanced false t.toList)
    (h' : ∀ t ∈ others, Balanced false t.toList)
    (same : (texts.flatMap fun t => t.toList ++ [',', ' ']) =
      others.flatMap fun t => t.toList ++ [',', ' ']) : texts = others := by
  -- a part ends at the first comma that stands outside of brackets
  induction texts generalizing others with
  | nil =>
    cases others with
    | nil => rfl
    | cons other rest => simp at same
  | cons text rest ih =>
    cases others with
    | nil => simp at same
    | cons other rest' =>
      have parts : text.toList ++ ',' :: (' ' :: rest.flatMap fun t => t.toList ++ [',', ' ']) =
          other.toList ++ ',' :: (' ' :: rest'.flatMap fun t => t.toList ++ [',', ' ']) := by
        simpa using same
      obtain ⟨first, behind⟩ := balanced_before_unique rfl (h text (by simp))
        (h' other (by simp)) parts
      have more := ih (fun t ht => h t (by simp [ht])) (fun t ht => h' t (by simp [ht]))
        (List.cons.inj behind).2
      rw [String.toList_inj.mp first, more]

theorem intercalate_inj {texts others : List String} (h : ∀ t ∈ texts, Balanced false t.toList)
    (h' : ∀ t ∈ others, Balanced false t.toList) (filled : "" ∉ texts) (filled' : "" ∉ others)
    (same : ", ".intercalate texts = ", ".intercalate others) : texts = others := by
  -- the text of an empty list is that of a list of one empty part
  have empty {list : List String} (filled : "" ∉ list) :
      ", ".intercalate list = "" ↔ list = [] := by
    cases list with
    | nil => simp
    | cons text rest =>
      have first : text ≠ "" := fun none => filled (none ▸ List.mem_cons_self ..)
      cases rest <;> simp [first]
  by_cases none : texts = []
  · rw [none, (empty filled').mp (same.symm.trans ((empty filled).mpr none))]
  · have some : others ≠ [] :=
      fun none' => none ((empty filled).mp (same.trans ((empty filled').mpr none')))
    refine ended_inj h h' ?_
    rw [← intercalate_ended none, ← intercalate_ended some, same]

theorem Argument.balanced_spell {commas : Bool} {a : Argument}
    (h : Balanced commas a.type.toList) : Balanced commas (a.spell a.type).toList := by
  have const : Balanced commas " const".toList := by cases commas <;> decide
  have pointer : Balanced commas "*".toList := by cases commas <;> decide
  rw [spell, String.toList_append, String.toList_append]
  refine (h.append ?_).append ?_
  · split
    next => exact const
    next => rfl
  · split
    next => exact pointer
    next => rfl

/-- A name behind a space is the last word of its text. -/
theorem named_inj {text text' name name' : String} (named : isIdentifier name = true)
    (named' : isIdentifier name' = true)
    (same : text.toList ++ ' ' :: name.toList = text'.toList ++ ' ' :: name'.toList) :
    text = text' ∧ name = name' := by
  have whole {word : String} (identifier : isIdentifier word = true) : ' ' ∉ word.toList := by
    intro mem
    cases isNamePart_of_isIdentifier identifier ' ' mem
  rcases append_cons_eq_append_cons same with ⟨first, last⟩ | ⟨more, -, parts⟩ | ⟨more, -, parts⟩
  · exact ⟨String.toList_inj.mp first, String.toList_inj.mp last⟩
  · exact absurd (by simp [parts]) (whole named)
  · exact absurd (by simp [parts]) (whole named')

namespace FunctionTemplate

variable {f g : FunctionTemplate}

/-- The types in the declaration of a template have their brackets closed, and those of its
parameters have commas within brackets only. -/
structure TypesBalanced (f : FunctionTemplate) : Prop where
  returns : Balanced true f.returns.type.toList
  parameters : ∀ a ∈ f.parameters, Balanced false a.type.toList

/-- The declarations of two functions agree part by part. What the functions are instantiated with
is no part of them. -/
structure Alike (f g : FunctionTemplate) : Prop where
  typeNames : f.typeNames = g.typeNames
  result : f.returns.spell f.returns.type = g.returns.spell g.returns.type
  name : f.name = g.name
  parameters : (f.parameters.map fun a => (a.spell a.type, a.label)) =
    g.parameters.map fun a => (a.spell a.type, a.label)

instance (f : FunctionTemplate) : Decidable f.TypesBalanced :=
  decidable_of_iff (Balanced true f.returns.type.toList ∧
      ∀ a ∈ f.parameters, Balanced false a.type.toList)
    ⟨fun h => ⟨h.1, h.2⟩, fun h => ⟨h.returns, h.parameters⟩⟩

instance (f g : FunctionTemplate) : Decidable (f.Alike g) :=
  decidable_of_iff (f.typeNames = g.typeNames ∧
      f.returns.spell f.returns.type = g.returns.spell g.returns.type ∧ f.name = g.name ∧
      (f.parameters.map fun a => (a.spell a.type, a.label)) =
        g.parameters.map fun a => (a.spell a.type, a.label))
    ⟨fun h => ⟨h.1, h.2.1, h.2.2.1, h.2.2.2⟩,
      fun h => ⟨h.typeNames, h.result, h.name, h.parameters⟩⟩

theorem Alike.cppSignature_eq (alike : f.Alike g) : f.cppSignature = g.cppSignature := by
  have parameters (h : FunctionTemplate) : h.parameterList id =
      (h.parameters.map fun a => (a.spell a.type, a.label)).map fun p => p.1 ++ " " ++ p.2 := by
    rw [List.map_map]
    rfl
  rw [cppSignature, cppSignature, templateHead, templateHead, parameters f, parameters g,
    alike.typeNames, alike.result, alike.name, alike.parameters]

/-- What stands in the declaration of a template behind its type parameters. -/
def declarator (f : FunctionTemplate) : List Char :=
  (f.returns.spell f.returns.type).toList ++ ' ' :: f.name.toList ++
    '(' :: (", ".intercalate (f.parameterList id)).toList

theorem cppSignature_toList (f : FunctionTemplate) :
    f.cppSignature.toList = "template <".toList ++
      ((", ".intercalate (f.typeNames.map ("typename " ++ ·))).toList ++
        '>' :: (' ' :: f.declarator ++ [')'])) := by
  simp [cppSignature, templateHead, declarator, String.toList_append]

theorem Accepted.balanced_typeNames (accepted : f.Accepted) :
    ∀ t ∈ f.typeNames.map ("typename " ++ ·), Balanced false t.toList := by
  intro t ht
  obtain ⟨name, hn, rfl⟩ := List.mem_map.mp ht
  have identifier := (accepted.isName_of_mem_typeNames hn).identifier
  rw [String.toList_append]
  exact Balanced.append (by decide) (balanced_of_isNamePart (isNamePart_of_isIdentifier identifier))

theorem Accepted.parts_of_cppSignature (accepted : f.Accepted) (accepted' : g.Accepted)
    (same : f.cppSignature = g.cppSignature) :
    f.typeNames = g.typeNames ∧ f.declarator = g.declarator := by
  have chars := congrArg String.toList same
  rw [cppSignature_toList, cppSignature_toList, List.append_cancel_left_eq] at chars
  have names := accepted.balanced_typeNames
  have names' := accepted'.balanced_typeNames
  have closing : openBehind true 0 '>' = none := rfl
  obtain ⟨head, rest⟩ := balanced_before_unique closing (balanced_intercalate names)
    (balanced_intercalate names') chars
  have filled (h : FunctionTemplate) : "" ∉ h.typeNames.map ("typename " ++ ·) := by
    simp
  have listed := intercalate_inj names names' (filled f) (filled g) (String.toList_inj.mp head)
  refine ⟨List.map_injective_iff.mpr ?_ listed, ?_⟩
  · intro name other same
    simpa using same
  · exact List.append_cancel_right (List.cons.inj rest).2

theorem Accepted.balanced_head (accepted : f.Accepted) (balanced : f.TypesBalanced) :
    Balanced true ((f.returns.spell f.returns.type).toList ++ ' ' :: f.name.toList) := by
  have space : Balanced true [' '] := by decide
  have name : Balanced true f.name.toList :=
    balanced_of_isNamePart (isNamePart_of_isIdentifier accepted.name.identifier)
  exact (Argument.balanced_spell balanced.returns).append (space.append name)

theorem filled_parameterList (f : FunctionTemplate) : "" ∉ f.parameterList id := by
  simp [parameterList, Argument.declaration]

theorem Accepted.balanced_parameterList (accepted : f.Accepted) (balanced : f.TypesBalanced) :
    ∀ t ∈ f.parameterList id, Balanced false t.toList := by
  intro t ht
  obtain ⟨a, ha, rfl⟩ := List.mem_map.mp ht
  have spelled := Argument.balanced_spell (balanced.parameters a ha)
  have label : Balanced false a.label.toList :=
    balanced_of_isNamePart (isNamePart_of_isIdentifier (accepted.isIdentifier_label ha))
  rw [Argument.declaration, String.toList_append, String.toList_append]
  exact (spelled.append (by decide)).append label

theorem Accepted.parameters_of_parameterList (accepted : f.Accepted) (accepted' : g.Accepted)
    (same : f.parameterList id = g.parameterList id) :
    (f.parameters.map fun a => (a.spell a.type, a.label)) =
      g.parameters.map fun a => (a.spell a.type, a.label) := by
  have length : f.parameters.length = g.parameters.length := by
    simpa [parameterList] using congrArg List.length same
  refine List.ext_getElem (by simpa using length) ?_
  intro i hi hi'
  rw [List.length_map] at hi hi'
  have declared : f.parameters[i].declaration id = g.parameters[i].declaration id := by
    have placed := congrArg (·[i]?) same
    simpa [parameterList, hi, hi'] using placed
  have chars := congrArg String.toList declared
  simp only [Argument.declaration, String.toList_append, List.append_assoc] at chars
  obtain ⟨spelled, label⟩ := named_inj (accepted.isIdentifier_label (List.getElem_mem hi))
    (accepted'.isIdentifier_label (List.getElem_mem hi')) chars
  simpa using ⟨spelled, label⟩

/-- Where the brackets in its types are closed, a function can be read back from the declaration
of its template, up to its type lists. -/
theorem Accepted.alike_of_cppSignature (accepted : f.Accepted) (accepted' : g.Accepted)
    (balanced : f.TypesBalanced) (balanced' : g.TypesBalanced)
    (same : f.cppSignature = g.cppSignature) : f.Alike g := by
  obtain ⟨typeNames, declarators⟩ := accepted.parts_of_cppSignature accepted' same
  have list := accepted.balanced_parameterList balanced
  have list' := accepted'.balanced_parameterList balanced'
  obtain ⟨head, inside⟩ := balanced_around_unique (accepted.balanced_head balanced)
    (accepted'.balanced_head balanced') (balanced_intercalate list) (balanced_intercalate list')
    declarators
  obtain ⟨result, name⟩ := named_inj accepted.name.identifier accepted'.name.identifier head
  have declared := intercalate_inj list list' f.filled_parameterList g.filled_parameterList
    (String.toList_inj.mp inside)
  exact ⟨typeNames, result, name, accepted.parameters_of_parameterList accepted' declared⟩

end FunctionTemplate

namespace Config

variable {c : Config}

/-- Functions of one name have no row of types in common, or a symbol would be claimed twice. -/
theorem Accepted.types_apart (accepted : c.Accepted) :
    c.functions.Pairwise fun f g => f.name = g.name →
      ∀ v ∈ f.exports, ∀ w ∈ g.exports, v.instantiation.types ≠ w.instantiation.types := by
  have distinct := accepted.symbols.nodup
  rw [exports, List.map_flatMap, List.nodup_flatMap] at distinct
  refine distinct.2.imp ?_
  intro f g apart named v hv w hw same
  have symbol : v.name c.suffixes = w.name c.suffixes := by
    have name : v.function.name = w.function.name := by
      rw [FunctionTemplate.function_of_mem_exports hv, FunctionTemplate.function_of_mem_exports hw,
        named]
    change v.function.name ++ "_" ++ c.suffixes.joined v.instantiation.types =
      w.function.name ++ "_" ++ c.suffixes.joined w.instantiation.types
    rw [name, same]
  exact apart (List.mem_map_of_mem hv) (symbol ▸ List.mem_map_of_mem hw)

end Config

/-- A line that starts the definition of a template. -/
def isTemplateDefinition (text : String) : Bool :=
  "template <".toList.isPrefixOf text.toList && text.toList.getLast? == some '\x7b'

def templateDefinitions (lines : List Line) : List String :=
  (lines.map (·.text)).filter isTemplateDefinition

theorem templateDefinitions_append (part more : List Line) :
    templateDefinitions (part ++ more) = templateDefinitions part ++ templateDefinitions more := by
  rw [templateDefinitions, List.map_append, List.filter_append]
  rfl

theorem templateDefinitions_eq_nil {part : List Line}
    (h : ∀ line ∈ part, isTemplateDefinition line.text = false) :
    templateDefinitions part = [] := by
  refine List.filter_eq_nil_iff.mpr ?_
  intro text ht
  obtain ⟨line, mem, rfl⟩ := List.mem_map.mp ht
  simp [h line mem]

theorem isTemplateDefinition_ended (text : String) :
    isTemplateDefinition (text ++ ";") = false := by
  simp [isTemplateDefinition, String.toList_append]

theorem isTemplateDefinition_indented (text : String) :
    isTemplateDefinition (Line.indent ++ text) = false := by
  simp [isTemplateDefinition, String.toList_append, Line.indent]

theorem Branch.not_definition_of_mem_lines {keyword : String} (b : Branch) :
    ∀ {line}, line ∈ b.lines keyword → isTemplateDefinition line.text = false := by
  simp [lines, Line.text, String.append_assoc, isTemplateDefinition_indented]

theorem Branch.templateDefinitions_chain (branches : List Branch) :
    templateDefinitions (chain branches) = [] := by
  refine templateDefinitions_eq_nil ?_
  intro line mem
  obtain ⟨keyword, -, b, -, inside⟩ := exists_of_mem_chain mem
  exact b.not_definition_of_mem_lines inside

theorem FunctionTemplate.isTemplateDefinition_opened (f : FunctionTemplate) :
    isTemplateDefinition (f.cppSignature ++ " \x7b") = true := by
  have opened : "template <".toList.isPrefixOf (f.cppSignature ++ " \x7b").toList = true := by
    rw [List.isPrefixOf_iff_prefix, String.toList_append, cppSignature_toList, List.append_assoc]
    exact List.prefix_append _ _
  have last : (f.cppSignature ++ " \x7b").toList.getLast? = some '\x7b' := by
    simp [String.toList_append]
  rw [isTemplateDefinition, opened, last]
  rfl

theorem FunctionTemplate.templateDefinitions_dispatchText (f : FunctionTemplate)
    (branches : List Branch) :
    templateDefinitions (f.dispatchText branches) = [f.cppSignature ++ " \x7b"] := by
  have head : templateDefinitions [.code (f.cppSignature ++ " \x7b")] =
      [f.cppSignature ++ " \x7b"] :=
    List.filter_eq_self.mpr (by simpa [Line.text] using f.isTemplateDefinition_opened)
  have rejection : templateDefinitions f.rejection = [] := by
    refine templateDefinitions_eq_nil ?_
    simp [FunctionTemplate.rejection, Line.text, String.append_assoc, isTemplateDefinition_indented]
  have last : templateDefinitions [.code "\x7d"] = [] := by decide
  rw [dispatchText, ← List.singleton_append, templateDefinitions_append,
    templateDefinitions_append, templateDefinitions_append, head,
    Branch.templateDefinitions_chain, rejection, last]
  rfl

namespace Config

variable {c : Config}

theorem templateDefinitions_headerPreamble (c : Config) :
    templateDefinitions c.headerPreamble = [] := by
  have included : templateDefinitions c.includeBlock = [] := by
    refine templateDefinitions_eq_nil ?_
    intro line mem
    rcases line_of_mem_includeBlock mem with included | rfl
    · obtain ⟨text, -, rfl⟩ := List.mem_map.mp included
      simp [Line.text, isTemplateDefinition, String.toList_append]
    · rfl
  have declared : templateDefinitions c.templateDeclarations = [] := by
    refine templateDefinitions_eq_nil ?_
    intro line mem
    obtain ⟨f, -, rfl⟩ := List.mem_map.mp mem
    exact isTemplateDefinition_ended _
  have marks : templateDefinitions (importMarkLines c.linkageLabel) = [] := by
    refine templateDefinitions_eq_nil ?_
    simp [importMarkLines, Line.text, isTemplateDefinition, String.toList_append]
  have guard : templateDefinitions [.ifNotDefined (includeGuard c.linkageLabel),
      .define (includeGuard c.linkageLabel) none, .blank] = [] := by
    refine templateDefinitions_eq_nil ?_
    simp [Line.text, isTemplateDefinition, String.toList_append]
  have plain : templateDefinitions [.blank] = [] ∧
      templateDefinitions [.ifDefined "__cplusplus"] = [] ∧
      templateDefinitions [.endIf none, .blank] = [] := by decide
  simp only [headerPreamble, templateDefinitions_append, included, declared, marks, guard, plain,
    List.append_nil]

theorem templateDefinitions_header {lines : List Line} (h : c.headerLines = .ok lines) :
    templateDefinitions lines = c.functions.map (·.cppSignature ++ " \x7b") := by
  rw [headerLines_eq] at h
  obtain ⟨-, rfl⟩ := unlessProblem_eq_ok_iff.mp h
  have blank : templateDefinitions [.blank] = [] := by decide
  have imports : templateDefinitions (c.functions.flatMap fun f =>
      f.exports.map (·.declaration c.suffixes c.linkageLabel) ++ [.blank]) = [] := by
    refine templateDefinitions_eq_nil ?_
    intro line mem
    obtain ⟨f, -, mem⟩ := List.mem_flatMap.mp mem
    rcases List.mem_append.mp mem with mem | mem
    · obtain ⟨w, -, rfl⟩ := List.mem_map.mp mem
      exact isTemplateDefinition_ended _
    · rw [List.mem_singleton.mp mem]
      rfl
  have dispatch (functions : List FunctionTemplate) :
      templateDefinitions (functions.flatMap fun f =>
        f.dispatchText (f.exports.map (·.branch c.suffixes)) ++ [.blank]) =
      functions.map (·.cppSignature ++ " \x7b") := by
    induction functions with
    | nil => rfl
    | cons f rest ih =>
      rw [List.flatMap_cons, templateDefinitions_append, ih, templateDefinitions_append,
        f.templateDefinitions_dispatchText, blank]
      rfl
  have opening : templateDefinitions [.comment "C++ wrapper impl.", .ifDefined "__cplusplus",
      .includes "<type_traits>", .blank] = [] := by decide
  have closing : templateDefinitions [.endIf none, .blank,
      .endIf (some (includeGuard c.linkageLabel))] = [] := by
    refine templateDefinitions_eq_nil ?_
    simp [Line.text, isTemplateDefinition, String.toList_append]
  simp only [headerDispatch, templateDefinitions_append, c.templateDefinitions_headerPreamble,
    imports, dispatch, opening, closing, List.nil_append, List.append_nil]

/-- The templates that a header defines: one for each function, and the same one twice just for
functions that are declared alike. -/
structure DefinesTemplates (c : Config) (lines : List Line) : Prop where
  defined : templateDefinitions lines = c.functions.map (·.cppSignature ++ " \x7b")
  /-- Declarations of two functions that are one text have the same type parameters, and the same
  of everything unless a bracket in a type stays open. -/
  declared : c.functions.Pairwise fun f g =>
    (f.cppSignature = g.cppSignature → f.typeNames = g.typeNames) ∧
      (f.TypesBalanced → g.TypesBalanced → (f.cppSignature = g.cppSignature ↔ f.Alike g))
  /-- What functions of one name are instantiated with has nothing in common. -/
  parted : c.functions.Pairwise fun f g => f.name = g.name →
    ∀ rows rows', f.instantiations = .ok rows → g.instantiations = .ok rows' →
      ∀ r ∈ rows, ∀ s ∈ rows', r.types ≠ s.types
  once : (∀ f ∈ c.functions, f.TypesBalanced) →
    ((templateDefinitions lines).Nodup ↔ c.functions.Pairwise fun f g => ¬f.Alike g)

theorem Accepted.definesTemplates (accepted : c.Accepted) {lines : List Line}
    (h : c.headerLines = .ok lines) : c.DefinesTemplates lines := by
  have defined := templateDefinitions_header h
  have functions := accepted.functions
  refine ⟨defined, ?_, ?_, ?_⟩
  · refine List.pairwise_of_forall_mem_list ?_
    intro f hf g hg
    refine ⟨fun same =>
      ((functions f hf).parts_of_cppSignature (functions g hg) same).1, ?_⟩
    intro balanced balanced'
    exact ⟨(functions f hf).alike_of_cppSignature (functions g hg) balanced balanced',
      FunctionTemplate.Alike.cppSignature_eq⟩
  · refine accepted.types_apart.imp ?_
    intro f g apart named rows rows' hrows hrows' r hr s hs
    rw [FunctionTemplate.instantiations_eq_exports] at hrows hrows'
    obtain ⟨-, rfl⟩ := unlessProblem_eq_ok_iff.mp hrows
    obtain ⟨-, rfl⟩ := unlessProblem_eq_ok_iff.mp hrows'
    obtain ⟨v, hv, rfl⟩ := List.mem_map.mp hr
    obtain ⟨w, hw, rfl⟩ := List.mem_map.mp hs
    exact apart named v hv w hw
  · intro balanced
    rw [defined, List.Nodup, List.pairwise_map]
    refine List.Pairwise.iff_of_mem ?_
    intro f g hf hg
    rw [ne_eq, String.append_left_inj]
    exact not_congr ⟨(functions f hf).alike_of_cppSignature (functions g hg) (balanced f hf)
      (balanced g hg), FunctionTemplate.Alike.cppSignature_eq⟩

end Config

/-- A sum of one type, and the same sum of another type. -/
def repeatedLibrary : Config where
  linkageName := some "MATH"
  includes := []
  suffixes := ⟨.empty⟩
  functions := ["float", "double"].map fun type =>
    { name := "add"
      typeParameters := [⟨"T", [type]⟩]
      combination := .all
      returns := ⟨none, "T", false, false⟩
      parameters := [⟨some "left", "T", false, false⟩, ⟨some "right", "T", false, false⟩] }

/-- Two functions whose types open a bracket that the other one's name stands behind. -/
def blurredLibrary : Config where
  linkageName := some "MATH"
  includes := []
  suffixes := ⟨.empty⟩
  functions :=
    [{ name := "first"
       typeParameters := [⟨"T", ["float"]⟩]
       combination := .all
       returns := ⟨none, "T", false, false⟩
       parameters := [⟨some "value", "T second(T", false, false⟩] },
     { name := "second"
       typeParameters := [⟨"T", ["float"]⟩]
       combination := .all
       returns := ⟨none, "T first(T", false, false⟩
       parameters := [⟨some "value", "T", false, false⟩] }]

end TemplateExport
