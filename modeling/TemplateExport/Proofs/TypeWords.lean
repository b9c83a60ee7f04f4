import TemplateExport.Proofs.Acceptance

namespace TemplateExport

/-- The runs of name characters between the other characters of a text. -/
def words (cs : List Char) : List (List Char) :=
  cs.splitOnP fun c => !isNamePart c

/-- A name stands in a text as a whole word. -/
def Mentions (name text : String) : Prop :=
  name.toList ∈ words text.toList

instance (name text : String) : Decidable (Mentions name text) :=
  inferInstanceAs (Decidable (_ ∈ _))

theorem words_append_cons {c : Char} (h : isNamePart c = false) (cs ds : List Char) :
    words (cs ++ c :: ds) = words cs ++ words ds :=
  List.splitOnP_append_cons cs ds (by simp [h])

theorem words_of_name {cs : List Char} (h : ∀ c ∈ cs, isNamePart c = true) : words cs = [cs] := by
  refine List.splitOnP_eq_singleton ?_
  intro c hc
  simp [h c hc]

theorem mentions_name_iff {name text : String} (h : isIdentifier text = true) :
    Mentions name text ↔ name = text := by
  rw [Mentions, words_of_name (isNamePart_of_isIdentifier h), List.mem_singleton,
    String.toList_inj]

/-- A character that belongs to no name divides the words of a text. -/
theorem mentions_divided {name text : String} (before behind : String) {c : Char}
    (h : isNamePart c = false) (parts : text.toList = before.toList ++ c :: behind.toList) :
    Mentions name text ↔ Mentions name before ∨ Mentions name behind := by
  rw [Mentions, parts, words_append_cons h, List.mem_append]
  rfl

theorem not_mentions_empty {name : String} (h : isIdentifier name = true) : ¬Mentions name "" := by
  intro mentioned
  have none : name.toList = [] := by simpa [Mentions, words] using mentioned
  rw [isIdentifier, none] at h
  cases h

section

variable {name : String} (named : isIdentifier name = true)

include named

/-- A mark at the end of a text adds no word to it. -/
theorem mentions_ended {text : String} (before : String) {c : Char} (h : isNamePart c = false)
    (parts : text.toList = before.toList ++ [c]) : Mentions name text ↔ Mentions name before := by
  rw [mentions_divided before "" h parts, or_iff_left (not_mentions_empty named)]

theorem mentions_intercalate (texts : List String) :
    Mentions name (", ".intercalate texts) ↔ ∃ text ∈ texts, Mentions name text := by
  induction texts with
  | nil => simpa using not_mentions_empty named
  | cons text rest ih =>
    cases rest with
    | nil => simp
    | cons next rest =>
      have comma : Mentions name (", ".intercalate (text :: next :: rest)) ↔
          Mentions name text ∨ Mentions name (" " ++ ", ".intercalate (next :: rest)) :=
        mentions_divided text (" " ++ ", ".intercalate (next :: rest)) (c := ',') rfl
          (by simp [String.toList_append])
      have space : Mentions name (" " ++ ", ".intercalate (next :: rest)) ↔
          Mentions name "" ∨ Mentions name (", ".intercalate (next :: rest)) :=
        mentions_divided "" (", ".intercalate (next :: rest)) (c := ' ') rfl
          (by simp [String.toList_append])
      rw [comma, space, ih, or_iff_right (not_mentions_empty named)]
      exact (List.exists_mem_cons_iff ..).symm

end

/-- The marks of an argument are no names, so they mention none. -/
theorem Argument.mentions_spell {name : String} (named : IsName name) (a : Argument)
    (type : String) : Mentions name (a.spell type) ↔ Mentions name type := by
  have const : Mentions name (type ++ " const") ↔ Mentions name type := by
    have keyword : ¬Mentions name "const" := by
      rw [mentions_name_iff (by decide)]
      rintro rfl
      exact absurd named.unreserved (by decide)
    rw [mentions_divided type "const" (c := ' ') rfl (by simp [String.toList_append]),
      or_iff_left keyword]
  have pointer (text : String) : Mentions name (text ++ "*") ↔ Mentions name text :=
    mentions_ended named.identifier text (c := '*') rfl (by simp [String.toList_append])
  obtain ⟨label, _, isConst, isPointer⟩ := a
  cases isConst <;> cases isPointer <;> simp [spell, const, pointer]

theorem Argument.mentions_declaration {name label : String} (named : IsName name) {a : Argument}
    (labelled : a.name = some label) (identifier : isIdentifier label = true)
    (resolve : String → String) :
    Mentions name (a.declaration resolve) ↔ Mentions name (resolve a.type) ∨ name = label := by
  have same : a.label = label := by simp [Argument.label, labelled]
  rw [mentions_divided (a.spell (resolve a.type)) label (c := ' ') rfl
    (by simp [declaration, same, String.toList_append]), a.mentions_spell named,
    mentions_name_iff identifier]

theorem WrapperSignature.mentions_text {name : String} (named : IsName name)
    {s : WrapperSignature} (identifier : isIdentifier s.name = true) :
    Mentions name s.text ↔
      Mentions name s.result ∨ name = s.name ∨ ∃ p ∈ s.parameters, Mentions name p := by
  obtain ⟨inside, same⟩ : ∃ inside, inside =
    if s.parameters.isEmpty then "void" else ", ".intercalate s.parameters := ⟨_, rfl⟩
  have list : Mentions name inside ↔ ∃ p ∈ s.parameters, Mentions name p := by
    rw [same]
    split
    next none =>
      have keyword : name ≠ "void" := by
        rintro rfl
        exact absurd named.unreserved (by decide)
      rw [mentions_name_iff (by decide), List.isEmpty_iff.mp none]
      simpa using keyword
    next => exact mentions_intercalate named.identifier s.parameters
  have whole : s.text = s.result ++ " " ++ s.name ++ "(" ++ inside ++ ")" := same ▸ rfl
  rw [whole, mentions_ended named.identifier (s.result ++ " " ++ s.name ++ "(" ++ inside)
      (c := ')') rfl (by simp [String.toList_append]),
    mentions_divided (s.result ++ " " ++ s.name) inside (c := '(') rfl
      (by simp [String.toList_append]),
    mentions_divided s.result s.name (c := ' ') rfl (by simp [String.toList_append]),
    list, mentions_name_iff identifier, or_assoc]

theorem mentions_marked {name mark : String} (named : isIdentifier name = true)
    (identifier : isIdentifier mark = true) (text : String) :
    Mentions name (mark ++ " " ++ text ++ ";") ↔ name = mark ∨ Mentions name text := by
  rw [mentions_ended named (mark ++ " " ++ text) (c := ';') rfl (by simp [String.toList_append]),
    mentions_divided mark text (c := ' ') rfl (by simp [String.toList_append]),
    mentions_name_iff identifier]

namespace Instantiation

variable {r : Instantiation}

/-- A name comes through the instantiation of a type: the type is a parameter bound to a type that
mentions the name, or it is no parameter and mentions the name itself. -/
def Leaves (r : Instantiation) (name type : String) : Prop :=
  (∃ concrete, (type, concrete) ∈ r.bindings ∧ Mentions name concrete) ∨
    (type ∉ r.bindings.map (·.1) ∧ Mentions name type)

theorem mentions_resolve {name type : String} (distinct : (r.bindings.map (·.1)).Nodup) :
    Mentions name (r.resolve type) ↔ r.Leaves name type := by
  by_cases bound : type ∈ r.bindings.map (·.1)
  · obtain ⟨⟨_, concrete⟩, there, rfl⟩ := List.mem_map.mp bound
    constructor
    · intro mentioned
      rw [resolve_of_mem distinct there] at mentioned
      exact Or.inl ⟨concrete, there, mentioned⟩
    · intro left
      rcases left with ⟨other, here, mentioned⟩ | ⟨unbound, _⟩
      · rwa [resolve_of_mem distinct here]
      · exact absurd bound unbound
  · have unbound (concrete : String) : (type, concrete) ∉ r.bindings :=
      fun there => bound (List.mem_map_of_mem there)
    simp [resolve_of_not_mem bound, Leaves, bound, unbound]

end Instantiation

/-- Where the types at choice do not mention a name, it comes through only in a type that is no
parameter and mentions it. -/
theorem Instantiation.not_leaves {r : Instantiation} {name type : String}
    (silent : ∀ b ∈ r.bindings, ¬Mentions name b.2)
    (h : type ∈ r.bindings.map (·.1) ∨ ¬Mentions name type) : ¬r.Leaves name type := by
  intro left
  rcases left with ⟨concrete, there, mentioned⟩ | ⟨unbound, mentioned⟩
  · exact silent _ there mentioned
  · exact h.elim unbound fun absent => absent mentioned

namespace FunctionTemplate

variable {f : FunctionTemplate}

theorem bindings_of_mem_rows {row : List String} (h : row ∈ f.rows) :
    (Instantiation.ofRow f.typeParameters row).bindings.map (·.1) = f.typeNames ∧
      ∀ b ∈ (Instantiation.ofRow f.typeParameters row).bindings,
        ∃ p ∈ f.typeParameters, b.2 ∈ p.types := by
  refine ⟨Instantiation.names_ofRow (length_of_mem_rows h), ?_⟩
  intro b hb
  exact exists_typed_of_mem_rows h (List.of_mem_zip hb).2

/-- A type parameter is mentioned in the declaration of a wrapper where a type leaves it behind, or
by the name of the wrapper. -/
theorem Accepted.mentions_cSignature (accepted : f.Accepted) {m : SuffixMapping}
    {r : Instantiation} (bound : r.bindings.map (·.1) = f.typeNames)
    (identifier : isIdentifier (m.symbol f r) = true) {name : String} (h : name ∈ f.typeNames) :
    Mentions name (f.cSignature r m) ↔
      (∃ a ∈ f.returns :: f.parameters, r.Leaves name a.type) ∨ name = m.symbol f r := by
  have named := accepted.isName_of_mem_typeNames h
  have distinct : (r.bindings.map (·.1)).Nodup := bound ▸ accepted.typeNames
  have parameter : ∀ a ∈ f.parameters,
      (Mentions name (a.declaration r.resolve) ↔ r.Leaves name a.type) := by
    intro a ha
    obtain ⟨label, same, isName, other⟩ := (accepted.parameters a ha).name
    have apart : name ≠ label := fun shadows => other (shadows ▸ h)
    rw [a.mentions_declaration named same isName.identifier,
      Instantiation.mentions_resolve distinct, or_iff_left apart]
  have parameters : (∃ p ∈ f.parameterList r.resolve, Mentions name p) ↔
      ∃ a ∈ f.parameters, r.Leaves name a.type := by
    constructor
    · intro h
      obtain ⟨_, mem, mentioned⟩ := h
      obtain ⟨a, ha, rfl⟩ := List.mem_map.mp mem
      exact ⟨a, ha, (parameter a ha).mp mentioned⟩
    · intro h
      obtain ⟨a, ha, left⟩ := h
      exact ⟨_, List.mem_map_of_mem ha, (parameter a ha).mpr left⟩
  have identifier : isIdentifier (f.wrapperSignature r m).name = true := identifier
  rw [cSignature, WrapperSignature.mentions_text named identifier, List.exists_mem_cons_iff]
  simp only [wrapperSignature, Argument.mentions_spell named, parameters,
    Instantiation.mentions_resolve distinct]
  exact or_assoc.symm.trans or_right_comm

end FunctionTemplate

/-- In the declarations of the wrappers of an accepted configuration a type carries a type
parameter of its function only where an instantiation leaves it behind; the rest of a declaration
is the name of the wrapper, the mark of the library and the names of parameters, which no type
parameter has. -/
theorem type_parameters_in_declarations {c : Config} {f : FunctionTemplate}
    (valid : c.validate = .ok ()) (hf : f ∈ c.functions) :
    ∃ rows, f.instantiations = .ok rows ∧
      f.importLines c.linkageLabel c.suffixes = .ok ((rows.map fun r =>
        .code (importMark c.linkageLabel ++ " " ++ f.cSignature r c.suffixes ++ ";")) ++
          [.blank]) ∧
      ∀ r ∈ rows, ∀ name ∈ f.typeNames,
        (∀ a ∈ f.returns :: f.parameters,
          Mentions name (a.spell (r.resolve a.type)) ↔ r.Leaves name a.type) ∧
        (Mentions name
            (importMark c.linkageLabel ++ " " ++ f.cSignature r c.suffixes ++ ";") ↔
          (∃ a ∈ f.returns :: f.parameters, r.Leaves name a.type) ∨
            name = c.suffixes.symbol f r ∨ name = importMark c.linkageLabel) ∧
        ((∀ p ∈ f.typeParameters, ∀ type ∈ p.types, ¬Mentions name type) →
          ∀ a ∈ f.returns :: f.parameters, a.type ∈ f.typeNames ∨ ¬Mentions name a.type →
            ¬Mentions name (a.spell (r.resolve a.type))) := by
  have accepted := Config.validate_eq_ok_iff.mp valid
  have paired := FunctionTemplate.unevenness?_eq_none_iff.mpr (accepted.even f hf)
  have function := accepted.functions f hf
  obtain ⟨label, labelled, linkage⟩ := accepted.linkage
  have mark : isIdentifier (importMark c.linkageLabel) = true := by
    have same : c.linkageLabel = label := by simp [Config.linkageLabel, labelled]
    exact isIdentifier_append (same ▸ linkage.identifier) (by decide)
  refine ⟨f.exports.map (·.instantiation), by rw [f.instantiations_eq_exports, paired]; rfl, ?_, ?_⟩
  · rw [f.importLines_eq, paired, FunctionTemplate.exports, List.map_map, List.map_map,
      List.map_map]
    rfl
  · intro r hr name hn
    obtain ⟨w, hw, rfl⟩ := List.mem_map.mp hr
    obtain ⟨row, mem, rfl⟩ := List.mem_map.mp hw
    have named := function.isName_of_mem_typeNames hn
    obtain ⟨bound, typed⟩ := FunctionTemplate.bindings_of_mem_rows mem
    have distinct := bound ▸ function.typeNames
    have symbol := accepted.symbols.identifiers _
      (List.mem_map_of_mem (List.mem_flatMap.mpr ⟨f, hf, hw⟩))
    have spelled (a : Argument) :
        Mentions name (a.spell ((Instantiation.ofRow f.typeParameters row).resolve a.type)) ↔
          (Instantiation.ofRow f.typeParameters row).Leaves name a.type :=
      (a.mentions_spell named _).trans (Instantiation.mentions_resolve distinct)
    refine ⟨fun a _ => spelled a, ?_, ?_⟩
    · rw [mentions_marked named.identifier mark, function.mentions_cSignature bound symbol hn,
        or_comm, or_assoc]
    · intro silent a _ kept
      rw [spelled a]
      refine Instantiation.not_leaves ?_ (bound ▸ kept)
      intro b hb
      obtain ⟨p, hp, mem⟩ := typed b hb
      exact silent p hp b.2 mem

/-- A parameter whose type is made from a type parameter, and a result that stands for a type with
the name of another type parameter. -/
def leakingLibrary : Config where
  linkageName := some "MATH"
  includes := []
  suffixes := ⟨.empty⟩
  functions :=
    [{ name := "first"
       typeParameters := [⟨"S", ["T"]⟩, ⟨"T", ["float"]⟩]
       combination := .all
       returns := ⟨none, "S", false, false⟩
       parameters := [⟨some "values", "T*", false, false⟩] }]

theorem leakingLibrary_validate : leakingLibrary.validate = .ok () :=
  rfl

theorem leakingLibrary_declarations : leakingLibrary.validate = .ok () ∧
    leakingLibrary.functions[0] ∈ leakingLibrary.functions ∧
    ∃ rows, leakingLibrary.functions[0].instantiations = .ok rows ∧
      ∀ r ∈ rows, ∀ a ∈ leakingLibrary.functions[0].returns ::
        leakingLibrary.functions[0].parameters,
          (Mentions "T" (a.spell (r.resolve a.type)) ↔ r.Leaves "T" a.type) := by
  have member : leakingLibrary.functions[0] ∈ leakingLibrary.functions := List.getElem_mem _
  obtain ⟨rows, instantiated, _, each⟩ :=
    type_parameters_in_declarations leakingLibrary_validate member
  refine ⟨leakingLibrary_validate, member, rows, instantiated, ?_⟩
  intro r hr
  exact (each r hr "T" (by decide)).1

/-- Both types of this declaration carry the name of a type parameter. -/
theorem type_parameter_left_behind : leakingLibrary.validate = .ok () ∧
    ∃ f r, leakingLibrary.functions = [f] ∧ f.instantiations = .ok [r] ∧ "T" ∈ f.typeNames ∧
      f.cSignature r leakingLibrary.suffixes = "T first_T_f32(T* values)" ∧
      Mentions "T" (f.returns.spell (r.resolve f.returns.type)) ∧
      ∃ a, f.parameters = [a] ∧ Mentions "T" (a.spell (r.resolve a.type)) :=
  ⟨leakingLibrary_validate, leakingLibrary.functions[0], ⟨[("S", "T"), ("T", "float")]⟩, rfl, rfl,
    by decide, by decide, by decide, _, rfl, by decide⟩

end TemplateExport
