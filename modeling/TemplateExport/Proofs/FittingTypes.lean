import TemplateExport.Config.Basic
import TemplateExport.Proofs.SymbolPlaces

namespace TemplateExport

/-- A type whose short name can be a part of every name. -/
def SuffixMapping.Fits (m : SuffixMapping) (type : String) : Prop :=
  ∀ c ∈ (m.suffix type).toList, isNamePart c = true

theorem nameParts_intercalate_iff {texts : List String} :
    (∀ c ∈ ("_".intercalate texts).toList, isNamePart c = true) ↔
      ∀ text ∈ texts, ∀ c ∈ text.toList, isNamePart c = true := by
  induction texts with
  | nil => simp
  | cons text rest ih =>
    by_cases last : rest = []
    · simp [last]
    · have mark : ∀ c ∈ "_".toList, isNamePart c = true := List.all_eq_true.mp (by decide)
      rw [String.intercalate_cons_of_ne_nil last, List.forall_mem_cons, ← ih,
        String.toList_append, String.toList_append, List.forall_mem_append, List.forall_mem_append,
        and_iff_left mark]

/-- Joined to an identifier a text makes one just where it has the characters of a name. -/
theorem isIdentifier_append_iff {s t : String} (h : isIdentifier s = true) :
    isIdentifier (s ++ t) = true ↔ ∀ c ∈ t.toList, isNamePart c = true := by
  constructor
  · intro whole c mem
    refine isNamePart_of_isIdentifier whole c ?_
    rw [String.toList_append]
    exact List.mem_append_right _ mem
  · intro parts
    exact isIdentifier_append h (List.all_eq_true.mpr parts)

theorem SuffixMapping.isIdentifier_symbol_iff {m : SuffixMapping} {f : FunctionTemplate}
    (named : isIdentifier f.name = true) (r : Instantiation) :
    isIdentifier (m.symbol f r) = true ↔ ∀ type ∈ r.types, m.Fits type := by
  have marked : isIdentifier (f.name ++ "_") = true := isIdentifier_append named (by decide)
  rw [symbol, isIdentifier_append_iff marked, joined, nameParts_intercalate_iff,
    List.forall_mem_map]
  rfl

namespace Config

variable {c : Config}

/-- A type that a function is to be instantiated with. -/
def Lists (c : Config) (type : String) : Prop :=
  ∃ f ∈ c.functions, ∃ p ∈ f.typeParameters, type ∈ p.types

theorem PartsAccepted.identifiers_iff (accepted : c.PartsAccepted)
    (even : ∀ f ∈ c.functions, f.Even) :
    (∀ name ∈ c.exports.map (·.name c.suffixes), isIdentifier name = true) ↔
      ∀ type, c.Lists type → c.suffixes.Fits type := by
  have decided {f : FunctionTemplate} (hf : f ∈ c.functions) {row : List String}
      (hr : row ∈ f.rows) :
      isIdentifier (c.suffixes.symbol f (.ofRow f.typeParameters row)) = true ↔
        ∀ type ∈ row, c.suffixes.Fits type := by
    rw [SuffixMapping.isIdentifier_symbol_iff (accepted.functions f hf).name.identifier,
      Instantiation.types_ofRow (FunctionTemplate.length_of_mem_rows hr)]
  constructor
  · intro identifiers type listed
    obtain ⟨f, hf, p, hp, mem⟩ := listed
    obtain ⟨row, hr, here⟩ := (accepted.functions f hf).exists_row_of_typed (even f hf) hp mem
    have exported : (⟨f, .ofRow f.typeParameters row⟩ : Wrapper) ∈ c.exports :=
      mem_exports hf (List.mem_map_of_mem hr)
    exact (decided hf hr).mp (identifiers _ (List.mem_map_of_mem exported)) type here
  · intro fits name mem
    obtain ⟨w, hw, rfl⟩ := List.mem_map.mp mem
    obtain ⟨f, hf, hw⟩ := List.mem_flatMap.mp hw
    obtain ⟨row, hr, rfl⟩ := List.mem_map.mp hw
    refine (decided hf hr).mpr ?_
    intro type here
    obtain ⟨p, hp, typed⟩ := FunctionTemplate.exists_typed_of_mem_rows hr here
    exact fits type ⟨f, hf, p, hp, typed⟩

theorem exists_error_iff_not_fresh (even : ∀ f ∈ c.functions, f.Even) :
    (∃ problem, c.exportedSymbols = .error problem) ↔
      ¬Fresh [] (c.exports.map (·.name c.suffixes)) := by
  constructor
  · intro refused fresh
    obtain ⟨problem, refused⟩ := refused
    have claimed := exportedSymbols_eq_ok_iff.mpr ⟨unevenness?_eq_none_iff.mpr even, fresh, rfl⟩
    rw [refused] at claimed
    cases claimed
  · intro stale
    cases h : c.exportedSymbols with
    | error problem => exact ⟨problem, rfl⟩
    | ok symbols =>
      obtain ⟨_, fresh, rfl⟩ := exportedSymbols_eq_ok_iff.mp h
      exact absurd fresh stale

/-- The symbols are refused for a type that does not fit, or for two instantiations that ask for
one symbol. -/
theorem PartsAccepted.exists_error_iff (accepted : c.PartsAccepted)
    (even : ∀ f ∈ c.functions, f.Even) :
    (∃ problem, c.exportedSymbols = .error problem) ↔
      (∃ type, c.Lists type ∧ ¬c.suffixes.Fits type) ∨
        ∃ x y : Nat × Nat, x ≠ y ∧ ∃ name,
          c.symbolAt? x.1 x.2 = some name ∧ c.symbolAt? y.1 y.2 = some name := by
  have unfit : (¬∀ name ∈ c.exports.map (·.name c.suffixes), isIdentifier name = true) ↔
      ∃ type, c.Lists type ∧ ¬c.suffixes.Fits type := by
    rw [accepted.identifiers_iff even]
    simp only [not_forall, exists_prop]
  have shared : (¬(c.exports.map (·.name c.suffixes)).Nodup) ↔
      ∃ x y : Nat × Nat, x ≠ y ∧ ∃ name,
        c.symbolAt? x.1 x.2 = some name ∧ c.symbolAt? y.1 y.2 = some name := by
    rw [nodup_names_iff_places even]
    constructor
    · intro h
      push Not at h
      obtain ⟨x, y, name, hx, hy, apart⟩ := h
      exact ⟨x, y, apart, name, hx, hy⟩
    · intro h all
      obtain ⟨x, y, apart, name, hx, hy⟩ := h
      exact apart (all x y name hx hy)
  rw [exists_error_iff_not_fresh even, fresh_empty_iff, not_and_or, unfit, shared]

/-- The configuration with entries put into its suffix mapping. -/
def mapSuffixes (c : Config) (entries : List (String × String)) : Config :=
  entries.foldl (fun c e => (Edit.mapSuffix e.1 e.2).apply c) c

theorem mapSuffixes_eq (c : Config) (entries : List (String × String)) :
    c.mapSuffixes entries = { c with
      suffixes := ⟨entries.foldl (fun t e => t.insert e.1 e.2) c.suffixes.overrides⟩ } := by
  induction entries generalizing c with
  | nil => rfl
  | cons e rest ih => exact ih ((Edit.mapSuffix e.1 e.2).apply c)

theorem mem_mapSuffixes {entries : List (String × String)} {e : String × String}
    (h : e ∈ (c.mapSuffixes entries).suffixes.overrides.entries) :
    e ∈ entries ∨ e ∈ c.suffixes.overrides.entries := by
  induction entries generalizing c with
  | nil => exact Or.inr h
  | cons first rest ih =>
    rcases ih h with later | kept
    · exact Or.inl (List.mem_cons_of_mem _ later)
    · rcases TextTable.mem_insertEntry kept with rfl | old
      · exact Or.inl List.mem_cons_self
      · exact Or.inr old

/-- A type has the short name of an entry for it, or the one that it had. -/
theorem suffix_mapSuffixes (entries : List (String × String)) (type : String) :
    (∃ e ∈ entries, (c.mapSuffixes entries).suffixes.suffix type = e.2) ∨
      type ∉ entries.map (·.1) ∧
        (c.mapSuffixes entries).suffixes.suffix type = c.suffixes.suffix type := by
  induction entries generalizing c with
  | nil => exact Or.inr ⟨by simp, rfl⟩
  | cons first rest ih =>
    rcases ih (c := (Edit.mapSuffix first.1 first.2).apply c) with
      ⟨e, he, later⟩ | ⟨absent, kept⟩
    · exact Or.inl ⟨e, List.mem_cons_of_mem _ he, later⟩
    · by_cases here : type = first.1
      · refine Or.inl ⟨first, List.mem_cons_self, kept.trans ?_⟩
        simp [Edit.apply, SuffixMapping.suffix, here]
      · refine Or.inr ⟨by simp [here, absent], kept.trans ?_⟩
        simp [Edit.apply, SuffixMapping.suffix, here]

theorem PartsAccepted.mapSuffixes (accepted : c.PartsAccepted) {entries : List (String × String)}
    (checked : ∀ e ∈ entries, checkSuffix e.1 e.2 = .ok ()) :
    (c.mapSuffixes entries).PartsAccepted := by
  have suffixes : ∀ e ∈ (c.mapSuffixes entries).suffixes.overrides.entries,
      isBlankText e.1 = false ∧ isSuffixText e.2 = true := by
    intro e he
    rcases mem_mapSuffixes he with added | old
    · exact checkSuffix_eq_ok_iff.mp (checked e added)
    · exact accepted.suffixes e old
  rw [mapSuffixes_eq] at suffixes ⊢
  exact ⟨accepted.linkage, accepted.includes, suffixes, accepted.exporting, accepted.functions⟩

theorem fits_mapSuffixes {entries : List (String × String)}
    (checked : ∀ e ∈ entries, checkSuffix e.1 e.2 = .ok ()) {type : String}
    (cured : c.suffixes.Fits type ∨ type ∈ entries.map (·.1)) :
    (c.mapSuffixes entries).suffixes.Fits type := by
  unfold SuffixMapping.Fits
  rcases suffix_mapSuffixes (c := c) entries type with ⟨e, he, named⟩ | ⟨absent, kept⟩
  · have text := (checkSuffix_eq_ok_iff.mp (checked e he)).2
    rw [isSuffixText, Bool.and_eq_true] at text
    rw [named]
    exact List.all_eq_true.mp text.2
  · rw [kept]
    exact cured.resolve_right absent

end Config

/-- Whether all names of wrappers are identifiers is decided by the listed types, one by one: by the
characters of their short names. Symbols are refused for a type whose short name does not fit or
for two instantiations with one name, and entries for the types that do not fit leave the latter
only. -/
theorem identifiers_decided_by_types {c : Config} (checked : c.checkParts = .ok ())
    (even : ∀ f ∈ c.functions, f.Even) :
    ((∀ i a name, c.symbolAt? i a = some name → isIdentifier name = true) ↔
      ∀ type, c.Lists type → c.suffixes.Fits type) ∧
    ((∃ problem, c.exportedSymbols = .error problem) ↔
      (∃ type, c.Lists type ∧ ¬c.suffixes.Fits type) ∨
        ∃ x y : Nat × Nat, x ≠ y ∧ ∃ name,
          c.symbolAt? x.1 x.2 = some name ∧ c.symbolAt? y.1 y.2 = some name) ∧
    ∀ entries : List (String × String), (∀ e ∈ entries, checkSuffix e.1 e.2 = .ok ()) →
      (∀ type, c.Lists type → ¬c.suffixes.Fits type → type ∈ entries.map (·.1)) →
      (c.mapSuffixes entries).checkParts = .ok () ∧
        (∀ i a name, (c.mapSuffixes entries).symbolAt? i a = some name →
          isIdentifier name = true) ∧
        ∀ name, (c.mapSuffixes entries).exportedSymbols ≠
          .error (.symbol (.notIdentifier name)) := by
  have accepted := Config.checkParts_eq_ok_iff.mp checked
  refine ⟨?_, accepted.exists_error_iff even, ?_⟩
  · rw [Config.forall_names_iff_places even, accepted.identifiers_iff even]
  · intro entries passing covered
    have mapped := accepted.mapSuffixes passing
    have functions : (c.mapSuffixes entries).functions = c.functions := by
      rw [Config.mapSuffixes_eq]
    have even' : ∀ f ∈ (c.mapSuffixes entries).functions, f.Even := functions ▸ even
    have identifiers := (mapped.identifiers_iff even').mpr (by
      intro type listed
      have before : c.Lists type := by
        rw [Config.Lists, functions] at listed
        exact listed
      refine Config.fits_mapSuffixes passing ?_
      by_cases fits : c.suffixes.Fits type
      · exact Or.inl fits
      · exact Or.inr (covered type before fits))
    refine ⟨Config.checkParts_eq_ok_iff.mpr mapped,
      (Config.forall_names_iff_places even').mpr identifiers, ?_⟩
    intro name refused
    obtain ⟨before, asked, behind, split, breach⟩ := Config.asked_of_refused refused
    obtain ⟨unfit, rfl⟩ : ¬isIdentifier asked ∧ name = asked := by simpa using breach
    rw [Config.flatMap_asked_of_even even'] at split
    exact unfit (identifiers name (split ▸ by simp))

/-- A function for a type that is spelled in two words. -/
def spacedLibrary : Config where
  linkageName := some "MATH"
  includes := []
  suffixes := ⟨.empty⟩
  functions :=
    [{ name := "negate"
       typeParameters := [⟨"T", ["float", "unsigned int"]⟩]
       combination := .all
       returns := ⟨none, "T", false, false⟩
       parameters := [⟨some "value", "T", false, false⟩] }]

theorem spacedLibrary_decided : spacedLibrary.checkParts = .ok () ∧
    (∀ f ∈ spacedLibrary.functions, f.Even) ∧
    ¬spacedLibrary.suffixes.Fits "unsigned int" ∧
    (∃ problem, spacedLibrary.exportedSymbols = .error problem) ∧
    checkSuffix "unsigned int" "uint" = .ok () ∧
    ∀ name, (spacedLibrary.mapSuffixes [("unsigned int", "uint")]).exportedSymbols ≠
      .error (.symbol (.notIdentifier name)) := by
  have checked : spacedLibrary.checkParts = .ok () := rfl
  have even : ∀ f ∈ spacedLibrary.functions, f.Even := by
    intro f hf fixed
    obtain rfl := List.mem_singleton.mp hf
    cases fixed
  have unfit : ¬spacedLibrary.suffixes.Fits "unsigned int" := by
    intro fits
    exact absurd (fits ' ' (by decide)) (by decide)
  have listed : spacedLibrary.Lists "unsigned int" :=
    ⟨_, List.mem_singleton_self _, _, List.mem_singleton_self _, by decide⟩
  have passing : checkSuffix "unsigned int" "uint" = .ok () := rfl
  obtain ⟨_, refused, cured⟩ := identifiers_decided_by_types checked even
  refine ⟨checked, even, unfit, refused.mpr (Or.inl ⟨_, listed, unfit⟩), passing,
    (cured [("unsigned int", "uint")] (by simpa using passing) ?_).2.2⟩
  intro type listed unfit
  obtain ⟨f, hf, p, hp, mem⟩ := listed
  obtain rfl := List.mem_singleton.mp hf
  obtain rfl := List.mem_singleton.mp hp
  rcases List.mem_cons.mp mem with rfl | mem
  · have fits : spacedLibrary.suffixes.Fits "float" := List.all_eq_true.mp (by decide)
    exact absurd fits unfit
  · simpa using mem

end TemplateExport
