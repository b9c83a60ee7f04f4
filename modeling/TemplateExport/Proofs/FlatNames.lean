import TemplateExport.Proofs.Diagonal
import TemplateExport.Proofs.Marks
import TemplateExport.Proofs.SymbolPlaces

namespace TemplateExport

/-- A text is divided in one way at its last underscore. -/
theorem last_divided_inj {name other part part' : String} (plain : '_' ∉ part.toList)
    (plain' : '_' ∉ part'.toList) (same : name ++ "_" ++ part = other ++ "_" ++ part') :
    name = other ∧ part = part' := by
  have chars : name.toList ++ '_' :: part.toList = other.toList ++ '_' :: part'.toList := by
    simpa [String.toList_append] using congrArg String.toList same
  rcases append_cons_eq_append_cons chars with
    ⟨here, there⟩ | ⟨more, _, there⟩ | ⟨more, _, there⟩
  · exact ⟨String.toList_inj.mp here, String.toList_inj.mp there⟩
  · exact absurd (there ▸ by simp) plain
  · exact absurd (there ▸ by simp) plain'

/-- Parts without underscores are read back from the right, with the name before them. -/
theorem divided_intercalate_inj {name other : String} {parts others : List String}
    (length : parts.length = others.length) (plain : ∀ part ∈ parts, '_' ∉ part.toList)
    (plain' : ∀ part ∈ others, '_' ∉ part.toList)
    (same : name ++ "_" ++ "_".intercalate parts = other ++ "_" ++ "_".intercalate others) :
    name = other ∧ parts = others := by
  -- the first part is taken for a part of the name until the last one is reached
  induction parts generalizing name other others with
  | nil =>
    obtain rfl := List.length_eq_zero_iff.mp length.symm
    exact ⟨(last_divided_inj (by simp) (by simp) same).1, rfl⟩
  | cons part rest ih =>
    cases others with
    | nil => simp at length
    | cons part' rest' =>
      have here := plain part (by simp)
      have here' := plain' part' (by simp)
      by_cases last : rest = []
      · have last' : rest' = [] := by simpa [last, eq_comm] using length
        simp only [last, last', String.intercalate_singleton] at same ⊢
        obtain ⟨rfl, rfl⟩ := last_divided_inj here here' same
        exact ⟨rfl, rfl⟩
      · have more' : rest' ≠ [] := by
          intro none
          simp [none, last] at length
        rw [String.intercalate_cons_of_ne_nil last, String.intercalate_cons_of_ne_nil more'] at same
        have longer : name ++ "_" ++ part ++ "_" ++ "_".intercalate rest =
            other ++ "_" ++ part' ++ "_" ++ "_".intercalate rest' := by
          simpa only [String.append_assoc] using same
        obtain ⟨before, rfl⟩ := ih (by simpa using length) (fun p hp => plain p (by simp [hp]))
          (fun p hp => plain' p (by simp [hp])) longer
        obtain ⟨rfl, rfl⟩ := last_divided_inj here here' before
        exact ⟨rfl, rfl⟩

theorem SuffixMapping.symbol_eq_symbol_iff {m : SuffixMapping} {f g : FunctionTemplate}
    {r s : Instantiation} (length : r.bindings.length = s.bindings.length)
    (plain : ∀ type ∈ r.types ++ s.types, '_' ∉ (m.suffix type).toList) :
    m.symbol f r = m.symbol g s ↔
      f.name = g.name ∧ r.types.map m.suffix = s.types.map m.suffix := by
  constructor
  · intro same
    refine divided_intercalate_inj ?_ ?_ ?_ same
    · simpa [Instantiation.types] using length
    · rw [List.forall_mem_map]
      exact fun type mem => plain type (List.mem_append_left _ mem)
    · rw [List.forall_mem_map]
      exact fun type mem => plain type (List.mem_append_right _ mem)
  · intro h
    rw [symbol, symbol, joined, joined, h.1, h.2]

/-- A type parameter whose types have different short names, and none with an underscore. -/
structure TypeParameter.Separated (m : SuffixMapping) (p : TypeParameter) : Prop where
  distinct : (p.types.map m.suffix).Nodup
  plain : ∀ type ∈ p.types, '_' ∉ (m.suffix type).toList

theorem nodup_map_rowsOfAll {α : Type} {short : String → α} {parameters : List TypeParameter}
    (distinct : ∀ p ∈ parameters, (p.types.map short).Nodup) :
    ((rowsOfAll parameters).map (List.map short)).Nodup := by
  induction parameters with
  | nil => simp [rowsOfAll]
  | cons p rest ih =>
    have tails := ih fun q hq => distinct q (by simp [hq])
    have own := distinct p (by simp)
    rw [rowsOfAll, List.map_flatMap]
    refine List.nodup_flatMap.mpr ⟨?_, ?_⟩
    · intro type _
      have split : ((rowsOfAll rest).map (type :: ·)).map (List.map short) =
          ((rowsOfAll rest).map (List.map short)).map (short type :: ·) := by
        simp [List.map_map, Function.comp_def]
      rw [split]
      exact tails.map List.cons_injective
    · refine (List.pairwise_map.mp own).imp ?_
      intro type other differs row here there
      simp only [List.map_map, List.mem_map] at here there
      obtain ⟨tail, _, rfl⟩ := here
      obtain ⟨tail', _, same⟩ := there
      exact differs (List.cons.inj same).1.symm

namespace FunctionTemplate

variable {f : FunctionTemplate} {m : SuffixMapping}

/-- Short names that are told apart in every list tell the wrappers apart. -/
theorem nodup_names_of_separated (separated : ∀ p ∈ f.typeParameters, p.Separated m) :
    (f.exports.map (·.name m)).Nodup := by
  have short : (f.rows.map (List.map m.suffix)).Nodup :=
    (nodup_map_rowsOfAll fun p hp => (separated p hp).distinct).sublist
      (f.rows_sublist_rowsOfAll.map _)
  have plain {row : List String} (hr : row ∈ f.rows) :
      ∀ type ∈ row, '_' ∉ (m.suffix type).toList := by
    intro type mem
    obtain ⟨p, hp, here⟩ := exists_typed_of_mem_rows hr mem
    exact (separated p hp).plain type here
  rw [exports, List.map_map]
  refine short.of_map.map_on ?_
  intro row hr other ho same
  have symbols : m.symbol f (.ofRow f.typeParameters row) =
      m.symbol f (.ofRow f.typeParameters other) := same
  have types := Instantiation.types_ofRow (length_of_mem_rows hr)
  have types' := Instantiation.types_ofRow (length_of_mem_rows ho)
  have length := congrArg List.length ((Instantiation.names_ofRow (length_of_mem_rows hr)).trans
    (Instantiation.names_ofRow (length_of_mem_rows ho)).symm)
  simp only [List.length_map] at length
  have suffixes := ((SuffixMapping.symbol_eq_symbol_iff length ?_).mp symbols).2
  · rw [types, types'] at suffixes
    exact List.inj_on_of_nodup_map short hr ho suffixes
  · rw [types, types']
    intro type mem
    exact (List.mem_append.mp mem).elim (plain hr type) (plain ho type)

end FunctionTemplate

/-- Where one function does not ask twice for a symbol and a configuration is refused for a
repeated one, another function asks for that. -/
theorem Config.exists_other_of_repeated {c : Config} {i : Nat} {f : FunctionTemplate}
    (here : c.functions[i]? = some f) (distinct : (f.asked c.suffixes).Nodup)
    {name : String} (refused : c.exportedSymbols = .error (.symbol (.repeated name))) :
    ∃ j b, j ≠ i ∧ c.symbolAt? j b = some name := by
  obtain ⟨before, asked, behind, split, breach⟩ := asked_of_refused refused
  obtain ⟨earlier, rfl⟩ : asked ∈ before ∧ name = asked := by simpa using breach
  -- the symbols of the function are counted apart from those of the others
  obtain ⟨hi, rfl⟩ := List.getElem?_eq_some_iff.mp here
  have parted : (c.functions[i].asked c.suffixes ++
      (c.functions.eraseIdx i).flatMap (·.asked c.suffixes)).Perm
        (before ++ name :: behind) := by
    rw [← split, ← List.flatMap_cons]
    exact (List.getElem_cons_eraseIdx_perm hi).flatMap_right _
  have twice := parted.count_eq name
  have once := List.nodup_iff_count_le_one.mp distinct name
  have first := List.count_pos_iff.mpr earlier
  rw [List.count_append, List.count_append, List.count_cons_self] at twice
  have others : 0 < ((c.functions.eraseIdx i).flatMap (·.asked c.suffixes)).count name := by omega
  obtain ⟨g, hg, mem⟩ := List.mem_flatMap.mp (List.count_pos_iff.mp others)
  obtain ⟨j, apart, there⟩ := List.mem_eraseIdx_iff_getElem?.mp hg
  obtain ⟨b, hb⟩ := List.mem_iff_getElem?.mp mem
  have even : g.Even := by
    by_contra uneven
    rw [FunctionTemplate.asked_of_uneven uneven] at mem
    cases mem
  rw [FunctionTemplate.asked_of_even even] at hb
  exact ⟨j, b, apart, symbolAt?_eq_some_iff.mpr ⟨g, there, even, hb⟩⟩

/-- Flat names are told apart by the function and the short names as long as these have no
underscores, so a function whose types have such names, different ones in each list, never asks for
one symbol twice. -/
theorem flat_names_injective (m : SuffixMapping) :
    (∀ (f g : FunctionTemplate) (r s : Instantiation), r.bindings.length = s.bindings.length →
      (∀ type ∈ r.types ++ s.types, '_' ∉ (m.suffix type).toList) →
      (m.symbol f r = m.symbol g s ↔
        f.name = g.name ∧ r.types.map m.suffix = s.types.map m.suffix)) ∧
    ∀ f : FunctionTemplate, f.Even → (∀ p ∈ f.typeParameters, p.Separated m) →
      ∃ rows, f.instantiations = .ok rows ∧ (rows.map (m.symbol f)).Nodup ∧
        ∀ (c : Config) (i : Nat), c.suffixes = m → c.functions[i]? = some f →
          ∀ name, c.exportedSymbols = .error (.symbol (.repeated name)) →
            ∃ j b, j ≠ i ∧ c.symbolAt? j b = some name := by
  refine ⟨fun f g r s => SuffixMapping.symbol_eq_symbol_iff, ?_⟩
  intro f even separated
  have distinct := FunctionTemplate.nodup_names_of_separated separated
  obtain ⟨rows, instantiated⟩ := FunctionTemplate.exists_instantiations.mpr even
  refine ⟨rows, instantiated, ?_, ?_⟩
  · rw [FunctionTemplate.map_symbol_instantiations instantiated]
    exact distinct
  · intro c i same here name refused
    subst same
    refine Config.exists_other_of_repeated here ?_ refused
    rw [FunctionTemplate.asked_of_even even]
    exact distinct

/-- A library that exports one function twice. -/
def doubledLibrary : Config :=
  { sampleLibrary with functions := [sampleLibrary.functions[0], sampleLibrary.functions[0]] }

theorem doubledLibrary_refused :
    sampleLibrary.suffixes.symbol sampleLibrary.functions[0]
        ⟨[("S", "int8_t"), ("T", "float")]⟩ ≠
      sampleLibrary.suffixes.symbol sampleLibrary.functions[0]
        ⟨[("S", "int8_t"), ("T", "double")]⟩ ∧
    sampleLibrary.functions[0].Even ∧
    (∀ p ∈ sampleLibrary.functions[0].typeParameters, p.Separated sampleLibrary.suffixes) ∧
    doubledLibrary.exportedSymbols = .error (.symbol (.repeated "add_ui32_f32")) ∧
    ∃ j b, j ≠ 0 ∧ doubledLibrary.symbolAt? j b = some "add_ui32_f32" := by
  obtain ⟨injective, apart⟩ := flat_names_injective sampleLibrary.suffixes
  have even : sampleLibrary.functions[0].Even := by
    intro fixed
    cases fixed
  have separated : ∀ p ∈ sampleLibrary.functions[0].typeParameters,
      p.Separated sampleLibrary.suffixes := by
    intro p hp
    have known : (p.types.map sampleLibrary.suffixes.suffix).Nodup ∧
        ∀ type ∈ p.types, '_' ∉ (sampleLibrary.suffixes.suffix type).toList := by
      revert p
      decide
    exact ⟨known.1, known.2⟩
  have refused : doubledLibrary.exportedSymbols = .error (.symbol (.repeated "add_ui32_f32")) := rfl
  obtain ⟨rows, _, _, others⟩ := apart sampleLibrary.functions[0] even separated
  refine ⟨?_, even, separated, refused, others doubledLibrary 0 rfl rfl _ refused⟩
  intro same
  have alike := (injective sampleLibrary.functions[0] sampleLibrary.functions[0]
    ⟨[("S", "int8_t"), ("T", "float")]⟩ ⟨[("S", "int8_t"), ("T", "double")]⟩ rfl
    (by decide)).mp same
  exact absurd alike.2 (by decide)

end TemplateExport
