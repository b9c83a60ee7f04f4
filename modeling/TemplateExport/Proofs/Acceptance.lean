import TemplateExport.Proofs.Breaches

namespace TemplateExport

/-- A name that C and C++ take for a variable, a function or a type. -/
structure IsName (value : String) : Prop where
  identifier : isIdentifier value = true
  unreserved : isReservedWord value = false

structure TypeParameter.Accepted (p : TypeParameter) : Prop where
  name : IsName p.name
  typed : p.types ≠ []
  types : ∀ type ∈ p.types, isBlankText type = false

structure Argument.Accepted (typeNames : List String) (a : Argument) : Prop where
  type : isBlankText a.type = false
  name : ∃ name, a.name = some name ∧ IsName name ∧ name ∉ typeNames

structure FunctionTemplate.Accepted (f : FunctionTemplate) : Prop where
  name : IsName f.name
  templated : f.typeParameters ≠ []
  typeParameters : ∀ p ∈ f.typeParameters, p.Accepted
  typeNames : f.typeNames.Nodup
  returns : isBlankText f.returns.type = false
  parameters : ∀ a ∈ f.parameters, a.Accepted f.typeNames
  names : (f.parameters.filterMap (·.name)).Nodup

structure Config.Accepted (c : Config) : Prop where
  linkage : ∃ name, c.linkageName = some name ∧ IsName name
  includes : ∀ included ∈ c.includes, isBlankText included = false
  suffixes : ∀ entry ∈ c.suffixes.overrides.entries,
    isBlankText entry.1 = false ∧ isSuffixText entry.2 = true
  exporting : c.functions ≠ []
  functions : ∀ f ∈ c.functions, f.Accepted
  even : ∀ f ∈ c.functions, f.Even
  symbols : Fresh [] (c.exports.map (·.name c.suffixes))

theorem Config.Accepted.isIdentifier_linkageLabel {c : Config} (accepted : c.Accepted) :
    isIdentifier c.linkageLabel = true := by
  obtain ⟨label, labelled, linkage⟩ := accepted.linkage
  simpa [linkageLabel, labelled] using linkage.identifier

theorem FunctionTemplate.Accepted.exports_ne_nil {f : FunctionTemplate} (accepted : f.Accepted)
    (even : f.Even) : f.exports ≠ [] := by
  have types : ∀ p ∈ f.typeParameters, p.types ≠ [] :=
    fun p hp => (accepted.typeParameters p hp).typed
  simpa [exports] using rows_ne_nil even accepted.templated types

theorem Config.Accepted.exports_ne_nil {c : Config} (accepted : c.Accepted) : c.exports ≠ [] := by
  obtain ⟨f, hf⟩ := List.exists_mem_of_ne_nil _ accepted.exporting
  obtain ⟨w, hw⟩ := List.exists_mem_of_ne_nil _
    ((accepted.functions f hf).exports_ne_nil (accepted.even f hf))
  exact List.ne_nil_of_mem (mem_exports hf hw)

theorem FunctionTemplate.Accepted.exists_row_of_typed {f : FunctionTemplate}
    (accepted : f.Accepted) (even : f.Even) {p : TypeParameter} (hp : p ∈ f.typeParameters)
    {type : String} (ht : type ∈ p.types) : ∃ row ∈ f.rows, type ∈ row :=
  FunctionTemplate.exists_row_of_typed even
    (fun q hq => (accepted.typeParameters q hq).typed) hp ht

theorem FunctionTemplate.Accepted.isName_of_mem_typeNames {f : FunctionTemplate}
    (accepted : f.Accepted) {name : String} (h : name ∈ f.typeNames) : IsName name := by
  obtain ⟨p, hp, rfl⟩ := List.mem_map.mp h
  exact (accepted.typeParameters p hp).name

theorem FunctionTemplate.Accepted.isIdentifier_label {f : FunctionTemplate}
    (accepted : f.Accepted) {a : Argument} (h : a ∈ f.parameters) :
    isIdentifier a.label = true := by
  obtain ⟨label, same, isName, -⟩ := (accepted.parameters a h).name
  simpa [Argument.label, same] using isName.identifier

theorem breachIf_eq_nil_iff {broken : Prop} [Decidable broken] {p : Problem} :
    breachIf broken p = [] ↔ ¬broken := by
  by_cases h : broken <;> simp [breachIf, h]

theorem identifierBreaches_eq_nil_iff {field value : String} :
    identifierBreaches field value = [] ↔ IsName value := by
  simp only [identifierBreaches, List.append_eq_nil_iff, breachIf_eq_nil_iff]
  constructor
  · intro h
    obtain ⟨⟨named, identifier⟩, unreserved⟩ := h
    exact ⟨by simpa [named] using identifier, by simpa using unreserved⟩
  · intro h
    obtain ⟨identifier, unreserved⟩ := h
    have named : value ≠ "" := by
      intro empty
      rw [empty] at identifier
      cases identifier
    exact ⟨⟨named, by simp [identifier]⟩, by simp [unreserved]⟩

theorem blankBreaches_eq_nil_iff (field value : String) :
    blankBreaches field value = [] ↔ isBlankText value = false := by
  simp [blankBreaches, breachIf_eq_nil_iff]

theorem emptyBreaches_eq_nil_iff {α : Type} {field : String} {values : List α} :
    emptyBreaches field values = [] ↔ values ≠ [] := by
  simp [emptyBreaches, breachIf_eq_nil_iff]

theorem map_snd_withEarlier {α : Type} (values : List α) :
    (withEarlier values).map (·.2) = values := by
  refine List.map_snd_zip ?_
  rw [List.length_inits]
  omega

theorem withEarlier_apart_iff_nodup {values : List String} :
    (∀ x ∈ withEarlier values, x.2 ∉ x.1) ↔ values.Nodup := by
  induction values with
  | nil => simp [withEarlier]
  | cons value rest ih =>
    have others : (∀ x ∈ withEarlier rest, x.2 ≠ value) ↔ value ∉ rest := by
      conv => rhs; rw [← map_snd_withEarlier rest, List.mem_map, not_exists]
      simp only [not_and]
    rw [withEarlier_cons, List.forall_mem_cons, List.forall_mem_map, List.nodup_cons, ← ih,
      ← others, ← forall₂_and]
    simp

theorem repeatBreaches_eq_nil_iff {field : String} {values : List String} :
    repeatBreaches field values = [] ↔ values.Nodup := by
  rw [← withEarlier_apart_iff_nodup, repeatBreaches, List.map_eq_nil_iff,
    Option.toList_eq_nil_iff, List.find?_eq_none]
  simp

theorem eachBreaches_eq_nil_iff_forall {α : Type} {values : List α}
    {breaches : Nat → α → List Problem} {accepted : α → Prop}
    (h : ∀ i x, breaches i x = [] ↔ accepted x) :
    eachBreaches values breaches = [] ↔ ∀ x ∈ values, accepted x := by
  simp only [eachBreaches_eq_nil_iff, h, List.mem_iff_getElem?]
  constructor
  · intro all x hx
    obtain ⟨i, hi⟩ := hx
    exact all i x hi
  · intro all i x hi
    exact all x ⟨i, hi⟩

theorem TypeParameter.breaches_eq_nil_iff (field : String) (p : TypeParameter) :
    p.breaches field = [] ↔ p.Accepted := by
  simp only [breaches, List.append_eq_nil_iff, List.flatMap_eq_nil_iff,
    identifierBreaches_eq_nil_iff, emptyBreaches_eq_nil_iff, blankBreaches_eq_nil_iff]
  constructor
  · intro h
    obtain ⟨⟨name, typed⟩, types⟩ := h
    exact ⟨name, typed, types⟩
  · intro h
    obtain ⟨name, typed, types⟩ := h
    exact ⟨⟨name, typed⟩, types⟩

theorem Argument.breaches_eq_nil_iff (field : String) (typeNames : List String) (a : Argument) :
    a.breaches field typeNames = [] ↔ a.Accepted typeNames := by
  rw [breaches, List.append_eq_nil_iff, blankBreaches_eq_nil_iff]
  cases hn : a.name with
  | none =>
    constructor
    · intro h
      obtain ⟨_, missing⟩ := h
      cases missing
    · intro h
      obtain ⟨_, name, named, _⟩ := h
      rw [hn] at named
      cases named
  | some name =>
    simp only [List.append_eq_nil_iff, identifierBreaches_eq_nil_iff, breachIf_eq_nil_iff]
    constructor
    · intro h
      obtain ⟨type, named, apart⟩ := h
      exact ⟨type, name, hn, named, apart⟩
    · intro h
      obtain ⟨type, other, same, named, apart⟩ := h
      cases hn.symm.trans same
      exact ⟨type, named, apart⟩

theorem FunctionTemplate.breaches_eq_nil_iff (field : String) (f : FunctionTemplate) :
    f.breaches field = [] ↔ f.Accepted := by
  simp only [breaches, List.append_eq_nil_iff, identifierBreaches_eq_nil_iff,
    emptyBreaches_eq_nil_iff, blankBreaches_eq_nil_iff, repeatBreaches_eq_nil_iff,
    eachBreaches_eq_nil_iff_forall fun i =>
      TypeParameter.breaches_eq_nil_iff (place (field ++ ".templates") i),
    eachBreaches_eq_nil_iff_forall fun i =>
      Argument.breaches_eq_nil_iff (place (field ++ ".parameters") i) f.typeNames]
  constructor
  · intro h
    obtain ⟨⟨⟨⟨⟨⟨name, templated⟩, typeParameters⟩, typeNames⟩, returns⟩, parameters⟩, names⟩ := h
    exact ⟨name, templated, typeParameters, typeNames, returns, parameters, names⟩
  · intro h
    obtain ⟨name, templated, typeParameters, typeNames, returns, parameters, names⟩ := h
    exact ⟨⟨⟨⟨⟨⟨name, templated⟩, typeParameters⟩, typeNames⟩, returns⟩, parameters⟩, names⟩

theorem suffixBreaches_eq_nil_iff {type suffix : String} :
    suffixBreaches type suffix = [] ↔ isBlankText type = false ∧ isSuffixText suffix = true := by
  simp [suffixBreaches, blankBreaches_eq_nil_iff, breachIf_eq_nil_iff, isSuffixText]

theorem linkageBreaches_eq_nil_iff {linkageName : Option String} :
    linkageBreaches linkageName = [] ↔ ∃ name, linkageName = some name ∧ IsName name := by
  cases linkageName <;> simp [linkageBreaches, identifierBreaches_eq_nil_iff]

theorem Config.symbolBreaches_eq_nil_iff {c : Config} :
    symbolBreaches [] (c.functions.flatMap (·.requests c.suffixes)) = [] ↔
      (∀ f ∈ c.functions, f.Even) ∧ Fresh [] (c.exports.map (·.name c.suffixes)) := by
  rw [← firstOf_eq_ok_iff, firstOf_symbolBreaches_functions, ← unevenness?_eq_none_iff]
  constructor
  · intro claimed
    cases hs : c.exportedSymbols with
    | error problem =>
      rw [exportedSymbols] at hs
      rw [hs] at claimed
      cases claimed
    | ok symbols =>
      obtain ⟨even, fresh, rfl⟩ := exportedSymbols_eq_ok_iff.mp hs
      exact ⟨even, fresh⟩
  · intro h
    obtain ⟨even, fresh⟩ := h
    have claimed := exportedSymbols_eq_ok_iff.mpr ⟨even, fresh, rfl⟩
    rw [exportedSymbols] at claimed
    rw [claimed]
    rfl

/-- A configuration whose parts keep the rules, whatever its symbols are. -/
structure Config.PartsAccepted (c : Config) : Prop where
  linkage : ∃ name, c.linkageName = some name ∧ IsName name
  includes : ∀ included ∈ c.includes, isBlankText included = false
  suffixes : ∀ entry ∈ c.suffixes.overrides.entries,
    isBlankText entry.1 = false ∧ isSuffixText entry.2 = true
  exporting : c.functions ≠ []
  functions : ∀ f ∈ c.functions, f.Accepted

theorem Config.partBreaches_eq_nil_iff {c : Config} : c.partBreaches = [] ↔ c.PartsAccepted := by
  simp only [partBreaches, List.append_eq_nil_iff, List.flatMap_eq_nil_iff,
    emptyBreaches_eq_nil_iff, suffixBreaches_eq_nil_iff,
    eachBreaches_eq_nil_iff_forall fun i => blankBreaches_eq_nil_iff (place "includes" i),
    eachBreaches_eq_nil_iff_forall fun i =>
      FunctionTemplate.breaches_eq_nil_iff (place "functions" i), linkageBreaches_eq_nil_iff]
  constructor
  · intro h
    obtain ⟨⟨⟨⟨linkage, includes⟩, suffixes⟩, exporting⟩, functions⟩ := h
    exact ⟨linkage, includes, suffixes, exporting, functions⟩
  · intro h
    obtain ⟨linkage, includes, suffixes, exporting, functions⟩ := h
    exact ⟨⟨⟨⟨linkage, includes⟩, suffixes⟩, exporting⟩, functions⟩

theorem Config.checkParts_eq_ok_iff {c : Config} : c.checkParts = .ok () ↔ c.PartsAccepted := by
  rw [checkParts_eq, firstOf_eq_ok_iff, partBreaches_eq_nil_iff]

theorem Config.validate_eq_ok_iff {c : Config} : c.validate = .ok () ↔ c.Accepted := by
  rw [validate_eq, firstOf_eq_ok_iff, breaches_eq, List.append_eq_nil_iff, partBreaches_eq_nil_iff,
    symbolBreaches_eq_nil_iff]
  constructor
  · intro h
    obtain ⟨⟨linkage, includes, suffixes, exporting, functions⟩, even, symbols⟩ := h
    exact ⟨linkage, includes, suffixes, exporting, functions, even, symbols⟩
  · intro h
    obtain ⟨linkage, includes, suffixes, exporting, functions, even, symbols⟩ := h
    exact ⟨⟨linkage, includes, suffixes, exporting, functions⟩, even, symbols⟩

theorem Config.Accepted.exportedSymbols_eq {c : Config} (accepted : c.Accepted) :
    c.exportedSymbols = .ok (c.exports.map (·.name c.suffixes)) :=
  exportedSymbols_eq_ok_iff.mpr
    ⟨unevenness?_eq_none_iff.mpr accepted.even, accepted.symbols, rfl⟩

theorem Config.Accepted.render_eq {c : Config} (accepted : c.Accepted) :
    c.render = .ok ⟨c.headerText, Line.join (dropFinalBlanks c.definitionLines),
      c.exports.map (·.name c.suffixes)⟩ := by
  rw [Config.render_eq, accepted.exportedSymbols_eq]
  rfl

theorem Config.Accepted.exists_lines {c : Config} (accepted : c.Accepted) :
    ∃ header implementation, c.headerLines = .ok header ∧
      c.implementationLines = .ok implementation ∧
      c.render = .ok ⟨Line.join header, Line.join implementation,
        c.exports.map (·.name c.suffixes)⟩ := by
  have even := unevenness?_eq_none_iff.mpr accepted.even
  exact ⟨_, _, by rw [headerLines_eq, even]; rfl, by rw [implementationLines_eq, even]; rfl,
    accepted.render_eq⟩

theorem checkSuffix_eq_ok_iff {type suffix : String} : checkSuffix type suffix = .ok () ↔
    isBlankText type = false ∧ isSuffixText suffix = true := by
  rw [checkSuffix_eq, firstOf_eq_ok_iff, suffixBreaches_eq_nil_iff]

theorem sampleLibrary_validate : sampleLibrary.validate = .ok () :=
  rfl

end TemplateExport
