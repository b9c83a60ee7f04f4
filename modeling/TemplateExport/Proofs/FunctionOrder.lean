import TemplateExport.Proofs.SymbolPlaces
import Mathlib.Data.List.Flatten
import Mathlib.Data.List.Perm.Subperm

namespace TemplateExport

/-- The symbols that a function claims, one for each instantiation. -/
def FunctionTemplate.Claims (m : SuffixMapping) (f : FunctionTemplate) (block : List String) :
    Prop :=
  ∃ rows, f.instantiations = .ok rows ∧ block = rows.map (m.symbol f)

theorem FunctionTemplate.claims_names {f : FunctionTemplate} (even : f.Even) (m : SuffixMapping) :
    f.Claims m (f.exports.map (·.name m)) := by
  obtain ⟨rows, instantiated⟩ := exists_instantiations.mpr even
  exact ⟨rows, instantiated, (map_symbol_instantiations instantiated m).symm⟩

theorem Fresh.subperm {used names others : List String} (fresh : Fresh used names)
    (h : others.Subperm names) : Fresh used others := by
  obtain ⟨chosen, same, part⟩ := h
  obtain ⟨identifiers, nodup, unused⟩ := fresh.sublist part
  exact ⟨fun name mem => identifiers name (same.mem_iff.mpr mem), same.nodup_iff.mp nodup,
    fun name mem => unused name (same.mem_iff.mpr mem)⟩

theorem wrapperNames_subperm (m : SuffixMapping) {some all : List FunctionTemplate}
    (h : some.Subperm all) : (wrapperNames m some).Subperm (wrapperNames m all) := by
  obtain ⟨chosen, same, part⟩ := h
  exact ⟨wrapperNames m chosen, (same.flatMap_right _).map _, (part.flatMap _).map _⟩

namespace Config

variable {c : Config} {functions : List FunctionTemplate}

/-- A configuration stays valid with some of its functions, in any order. -/
theorem Accepted.of_subperm (accepted : c.Accepted) (h : functions.Subperm c.functions)
    (exporting : functions ≠ []) : { c with functions }.Accepted where
  linkage := accepted.linkage
  includes := accepted.includes
  suffixes := accepted.suffixes
  exporting := exporting
  functions := fun f hf => accepted.functions f (h.subset hf)
  even := fun f hf => accepted.even f (h.subset hf)
  symbols := accepted.symbols.subperm (wrapperNames_subperm c.suffixes h)

theorem accepted_perm_iff (h : functions.Perm c.functions) :
    { c with functions }.Accepted ↔ c.Accepted := by
  have exporting : functions = [] ↔ c.functions = [] := by
    rw [← List.length_eq_zero_iff, ← List.length_eq_zero_iff, h.length_eq]
  constructor
  · intro accepted
    exact accepted.of_subperm h.symm.subperm (exporting.not.mp accepted.exporting)
  · intro accepted
    exact accepted.of_subperm h.subperm (exporting.not.mpr accepted.exporting)

theorem Accepted.exportedSymbols_eq_flatMap (accepted : c.Accepted) :
    c.exportedSymbols = .ok (c.functions.flatMap fun f => f.exports.map (·.name c.suffixes)) := by
  rw [accepted.exportedSymbols_eq, exports, List.map_flatMap]

end Config

/-- Whether a configuration is valid does not depend on the order of its functions, and a valid one
stays valid when functions are left out, as long as one is left. The symbols are made of one block
for each function, and the blocks move and go with their functions. -/
theorem functions_accepted_in_any_order (c : Config) :
    (∀ functions, functions.Perm c.functions →
      ({ c with functions }.validate = .ok () ↔ c.validate = .ok ())) ∧
    (c.validate = .ok () → ∃ block : FunctionTemplate → List String,
      (∀ f ∈ c.functions, f.Claims c.suffixes (block f)) ∧
      c.exportedSymbols = .ok (c.functions.map block).flatten ∧
      (∀ functions, functions.Perm c.functions →
        { c with functions }.exportedSymbols = .ok (functions.map block).flatten) ∧
      ∀ functions, functions.Sublist c.functions → functions ≠ [] →
        { c with functions }.validate = .ok () ∧
        { c with functions }.exportedSymbols = .ok (functions.map block).flatten ∧
        (functions.map block).Sublist (c.functions.map block)) := by
  simp only [Config.validate_eq_ok_iff, ← List.flatMap_def]
  refine ⟨fun functions => Config.accepted_perm_iff, ?_⟩
  intro accepted
  refine ⟨fun f => f.exports.map (·.name c.suffixes), ?_, accepted.exportedSymbols_eq_flatMap,
    ?_, ?_⟩
  · intro f hf
    exact FunctionTemplate.claims_names (accepted.even f hf) c.suffixes
  · intro functions h
    exact ((Config.accepted_perm_iff h).mpr accepted).exportedSymbols_eq_flatMap
  · intro functions h exporting
    have part := accepted.of_subperm h.subperm exporting
    exact ⟨part, part.exportedSymbols_eq_flatMap, h.map _⟩

theorem sampleLibrary_reordered :
    { sampleLibrary with functions := sampleLibrary.functions.reverse }.validate = .ok () ∧
    { sampleLibrary with functions := sampleLibrary.functions.drop 1 }.validate = .ok () ∧
    ∃ add scale, sampleLibrary.exportedSymbols = .ok (add ++ scale) ∧
      { sampleLibrary with functions := sampleLibrary.functions.reverse }.exportedSymbols =
        .ok (scale ++ add) ∧
      { sampleLibrary with functions := sampleLibrary.functions.drop 1 }.exportedSymbols =
        .ok scale := by
  obtain ⟨valid, blocks⟩ := functions_accepted_in_any_order sampleLibrary
  obtain ⟨block, _, all, permuted, parts⟩ := blocks sampleLibrary_validate
  have reversed := List.reverse_perm sampleLibrary.functions
  obtain ⟨accepted, scale, _⟩ := parts _ (List.drop_sublist 1 _) (by simp [sampleLibrary])
  refine ⟨(valid _ reversed).mpr sampleLibrary_validate, accepted,
    block sampleLibrary.functions[0], block sampleLibrary.functions[1], ?_, ?_, ?_⟩
  · simpa [sampleLibrary] using all
  · simpa [sampleLibrary] using permuted _ reversed
  · simpa [sampleLibrary] using scale

end TemplateExport
