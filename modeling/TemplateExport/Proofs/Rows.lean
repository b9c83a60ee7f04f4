import TemplateExport.Instantiation
import TemplateExport.TextTable
import Mathlib.Algebra.Group.Nat.Defs
import Mathlib.Data.List.Forall2

namespace TemplateExport

theorem mem_rowsOfAll {parameters : List TypeParameter} {row : List String} :
    row ∈ rowsOfAll parameters ↔ List.Forall₂ (fun type p => type ∈ p.types) row parameters := by
  induction parameters generalizing row with
  | nil => simp [rowsOfAll]
  | cons p rest ih =>
    simp only [rowsOfAll, List.mem_flatMap, List.mem_map]
    constructor
    · intro h
      obtain ⟨type, ht, tail, htail, rfl⟩ := h
      exact List.Forall₂.cons ht (ih.mp htail)
    · intro h
      cases h with
      | cons ht htail => exact ⟨_, ht, _, ih.mpr htail, rfl⟩

theorem length_rowsOfAll (parameters : List TypeParameter) :
    (rowsOfAll parameters).length = (parameters.map (·.types.length)).prod := by
  induction parameters with
  | nil => rfl
  | cons p rest ih => simp [rowsOfAll, List.length_flatMap, ih]

/-- The i-th row is made of the i-th types; it is there as long as every list reaches that far. -/
theorem getElem?_rowsOfFixed {count i : Nat} {parameters : List TypeParameter}
    {row : List String} :
    (rowsOfFixed count parameters)[i]? = some row ↔
      i < count ∧ List.Forall₂ (fun type p => p.types[i]? = some type) row parameters := by
  induction parameters generalizing row with
  | nil => simp [rowsOfFixed, List.getElem?_replicate, eq_comm]
  | cons p rest ih =>
    simp only [rowsOfFixed, List.getElem?_zipWith_eq_some]
    constructor
    · intro h
      obtain ⟨type, tail, ht, htail, rfl⟩ := h
      obtain ⟨hi, hrest⟩ := ih.mp htail
      exact ⟨hi, List.Forall₂.cons ht hrest⟩
    · intro h
      obtain ⟨hi, h⟩ := h
      cases h with
      | cons ht hrest => exact ⟨_, _, ht, ih.mpr ⟨hi, hrest⟩, rfl⟩

theorem length_rowsOfFixed {count : Nat} {parameters : List TypeParameter}
    (even : ∀ p ∈ parameters, p.types.length = count) :
    (rowsOfFixed count parameters).length = count := by
  induction parameters with
  | nil => simp [rowsOfFixed]
  | cons p rest ih =>
    have hp := even p (by simp)
    have hr := ih (fun q hq => even q (by simp [hq]))
    simp [rowsOfFixed, hp, hr]

namespace Instantiation

variable {parameters : List TypeParameter} {row : List String}

theorem names_ofRow (h : row.length = parameters.length) :
    (ofRow parameters row).bindings.map (·.1) = parameters.map (·.name) :=
  List.map_fst_zip (by simp [h])

theorem types_ofRow (h : row.length = parameters.length) : (ofRow parameters row).types = row :=
  List.map_snd_zip (by simp [h])

theorem resolve_of_mem {r : Instantiation} {type concrete : String}
    (distinct : (r.bindings.map (·.1)).Nodup) (h : (type, concrete) ∈ r.bindings) :
    r.resolve type = concrete := by
  rw [resolve, (lookup_eq_some_iff_mem distinct).mpr h, Option.getD_some]

theorem resolve_of_not_mem {r : Instantiation} {type : String}
    (h : type ∉ r.bindings.map (·.1)) : r.resolve type = type := by
  rw [resolve, lookup_eq_none_of_not_mem h, Option.getD_none]

end Instantiation

namespace FunctionTemplate

/-- The rows of types that a function is instantiated with, where its lists can be combined. -/
def rows (f : FunctionTemplate) : List (List String) :=
  match f.typeParameters, f.combination with
  | [], _ => []
  | first :: rest, .all => rowsOfAll (first :: rest)
  | first :: rest, .fixed => rowsOfFixed first.types.length (first :: rest)

/-- What keeps the type lists from being paired: the first one of another length than that of the
first parameter. -/
def unevenness? (f : FunctionTemplate) : Option Problem :=
  match f.combination, f.typeParameters with
  | .fixed, first :: rest =>
    (rest.find? fun p => p.types.length != first.types.length).map fun p =>
      .invalidValue "templates" p.name (.unevenLists first.types.length p.types.length)
  | _, _ => none

/-- A function whose type lists can be combined in the way that it asks for. -/
def Even (f : FunctionTemplate) : Prop :=
  f.combination = .fixed →
    ∀ p ∈ f.typeParameters, ∀ q ∈ f.typeParameters, p.types.length = q.types.length

theorem instantiations_eq (f : FunctionTemplate) :
    f.instantiations =
      match f.unevenness? with
      | some problem => .error problem
      | none => .ok (f.rows.map (.ofRow f.typeParameters)) := by
  obtain ⟨name, parameters, combination, returns, arguments⟩ := f
  cases parameters with
  | nil => cases combination <;> rfl
  | cons first rest =>
    cases combination with
    | all => rfl
    | fixed =>
      cases h : rest.find? (fun p => p.types.length != first.types.length) with
      | none => simp [instantiations, Combination.instantiations, unevenness?, rows, h]
      | some p => simp [instantiations, Combination.instantiations, unevenness?, h]

theorem unevenness?_eq_none_iff {f : FunctionTemplate} : f.unevenness? = none ↔ f.Even := by
  obtain ⟨name, parameters, combination, returns, arguments⟩ := f
  cases combination with
  | all => simp [unevenness?, Even]
  | fixed =>
    cases parameters with
    | nil => simp [unevenness?, Even]
    | cons first rest =>
      simp only [unevenness?, Option.map_eq_none_iff, List.find?_eq_none, Even, true_implies]
      constructor
      · intro h p hp q hq
        have same : ∀ r ∈ first :: rest, r.types.length = first.types.length := by
          intro r hr
          rcases List.mem_cons.mp hr with rfl | hr
          · rfl
          · simpa using h r hr
        rw [same p hp, same q hq]
      · intro h p hp
        simpa using h p (by simp [hp]) first (by simp)

/-- Each type of a row is one of the types of the parameter at its place. -/
theorem typed_of_mem_rows {f : FunctionTemplate} {row : List String} (h : row ∈ f.rows) :
    List.Forall₂ (fun type p => type ∈ p.types) row f.typeParameters := by
  unfold rows at h
  split at h
  next => simp at h
  next first rest hp _ =>
    rw [hp]
    exact mem_rowsOfAll.mp h
  next first rest hp _ =>
    rw [hp]
    obtain ⟨i, hi⟩ := List.mem_iff_getElem?.mp h
    exact (getElem?_rowsOfFixed.mp hi).2.imp fun _ _ => List.mem_of_getElem?

theorem length_of_mem_rows {f : FunctionTemplate} {row : List String} (h : row ∈ f.rows) :
    row.length = f.typeParameters.length :=
  (typed_of_mem_rows h).length_eq

theorem names_of_instantiated {f : FunctionTemplate} {rows : List Instantiation}
    (h : f.instantiations = .ok rows) {r : Instantiation} (mem : r ∈ rows) :
    r.bindings.map (·.1) = f.typeNames := by
  rw [instantiations_eq] at h
  split at h
  next => cases h
  next =>
    obtain rfl := Except.ok.inj h
    obtain ⟨row, here, rfl⟩ := List.mem_map.mp mem
    exact Instantiation.names_ofRow (length_of_mem_rows here)

theorem exists_typed_of_mem_rows {f : FunctionTemplate} {row : List String} (h : row ∈ f.rows)
    {type : String} (mem : type ∈ row) : ∃ p ∈ f.typeParameters, type ∈ p.types := by
  have typed := typed_of_mem_rows h
  obtain ⟨i, hi, rfl⟩ := List.mem_iff_getElem.mp mem
  exact ⟨_, List.getElem_mem _, typed.get hi (typed.length_eq ▸ hi)⟩

/-- Each type of a parameter is in a row, as the lists can be combined and none is empty. -/
theorem exists_row_of_typed {f : FunctionTemplate} (even : f.Even)
    (types : ∀ p ∈ f.typeParameters, p.types ≠ []) {p : TypeParameter}
    (hp : p ∈ f.typeParameters) {type : String} (ht : type ∈ p.types) :
    ∃ row ∈ f.rows, type ∈ row := by
  obtain ⟨first, rest, hf⟩ := List.exists_cons_of_ne_nil (List.ne_nil_of_mem hp)
  obtain ⟨i, hi, rfl⟩ := List.mem_iff_getElem.mp ht
  cases hc : f.combination with
  | all =>
    let choice : TypeParameter → String := fun q => if q = p then p.types[i] else q.types.headD ""
    refine ⟨f.typeParameters.map choice, ?_, List.mem_map.mpr ⟨p, hp, if_pos rfl⟩⟩
    simp only [rows, hc, hf]
    rw [mem_rowsOfAll, List.forall₂_map_left_iff, List.forall₂_same]
    intro q hq
    by_cases same : q = p
    · simp [choice, same]
    · have filled := types q (hf ▸ hq)
      simp only [choice, if_neg same]
      obtain ⟨head, tail, typed⟩ := List.exists_cons_of_ne_nil filled
      simp [typed]
  | fixed =>
    have same := even hc
    refine ⟨f.typeParameters.map fun q => q.types.getD i "", ?_, List.mem_map.mpr ⟨p, hp, ?_⟩⟩
    · simp only [rows, hc, hf]
      refine List.mem_iff_getElem?.mpr ⟨i, getElem?_rowsOfFixed.mpr ⟨?_, ?_⟩⟩
      · rw [same first (by simp [hf]) p hp]
        exact hi
      · rw [List.forall₂_map_left_iff, List.forall₂_same]
        intro q hq
        have here : i < q.types.length := same p hp q (hf ▸ hq) ▸ hi
        simp [here]
    · simp [hi]

/-- Each choice of a type for every parameter is one row. -/
theorem length_rows_of_all {f : FunctionTemplate} (hc : f.combination = .all)
    (hne : f.typeParameters ≠ []) :
    f.rows.length = (f.typeParameters.map (·.types.length)).prod := by
  obtain ⟨first, rest, hp⟩ := List.exists_cons_of_ne_nil hne
  simp only [rows, hp, hc, length_rowsOfAll]

/-- Each place of the lists is one row. -/
theorem length_rows_of_fixed {f : FunctionTemplate} (hc : f.combination = .fixed)
    (even : f.Even) {p : TypeParameter} (hp : p ∈ f.typeParameters) :
    f.rows.length = p.types.length := by
  obtain ⟨first, rest, hf⟩ := List.exists_cons_of_ne_nil (List.ne_nil_of_mem hp)
  have same := even hc
  simp only [rows, hf, hc]
  rw [length_rowsOfFixed fun q hq => same q (hf ▸ hq) first (by simp [hf])]
  exact same first (by simp [hf]) p hp

theorem rows_ne_nil {f : FunctionTemplate} (even : f.Even) (hne : f.typeParameters ≠ [])
    (types : ∀ p ∈ f.typeParameters, p.types ≠ []) : f.rows ≠ [] := by
  have positive : ∀ p ∈ f.typeParameters, 0 < p.types.length :=
    fun p hp => List.length_pos_iff.mpr (types p hp)
  refine List.length_pos_iff.mp ?_
  cases hc : f.combination with
  | all =>
    rw [length_rows_of_all hc hne]
    refine List.prod_pos_iff_forall_pos_nat.mpr ?_
    intro n hn
    obtain ⟨p, hp, rfl⟩ := List.mem_map.mp hn
    exact positive p hp
  | fixed =>
    obtain ⟨p, hp⟩ := List.exists_mem_of_ne_nil _ hne
    rw [length_rows_of_fixed hc even hp]
    exact positive p hp

end FunctionTemplate

end TemplateExport
