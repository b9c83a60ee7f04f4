import TemplateExport.Proofs.Rows
import Mathlib.Algebra.BigOperators.Group.List.Lemmas

namespace TemplateExport

/-- The number of choices of one type for each parameter. -/
def choiceCount (parameters : List TypeParameter) : Nat :=
  (parameters.map (·.types.length)).prod

/-- The places of the types that the i-th choice takes, one in the list of each parameter. The last
parameter has the units of `i`, and one step of a parameter is a round of all those behind it. -/
def placesOfChoice (parameters : List TypeParameter) (i : Nat) : List Nat :=
  parameters.mapIdx fun j p => i / choiceCount (parameters.drop (j + 1)) % p.types.length

/-- The choice that takes the types at the given places. -/
def choiceOfPlaces : List TypeParameter → List Nat → Nat
  | _ :: rest, place :: places => place * choiceCount rest + choiceOfPlaces rest places
  | _, _ => 0

/-- Places that there are in the lists of the parameters. -/
def PlacesIn (parameters : List TypeParameter) (places : List Nat) : Prop :=
  List.Forall₂ (fun place p => place < p.types.length) places parameters

theorem choiceCount_cons (p : TypeParameter) (rest : List TypeParameter) :
    choiceCount (p :: rest) = p.types.length * choiceCount rest :=
  List.prod_cons

/-- A digit of a number is a digit of its remainder by a multiple of the weight next above. -/
theorem mod_div_mod_of_dvd {weight base round : Nat} (h : weight * base ∣ round) (i : Nat) :
    i % round / weight % base = i / weight % base := by
  rw [← Nat.mod_mul_right_div_self, ← Nat.mod_mul_right_div_self, Nat.mod_mod_of_dvd i h]

theorem choiceCount_drop_dvd {parameters : List TypeParameter} {j : Nat}
    (h : j < parameters.length) :
    choiceCount (parameters.drop (j + 1)) * parameters[j].types.length ∣
      choiceCount parameters := by
  have split : choiceCount (parameters.drop j) =
      parameters[j].types.length * choiceCount (parameters.drop (j + 1)) := by
    rw [List.drop_eq_getElem_cons h, choiceCount_cons]
  rw [Nat.mul_comm, ← split]
  exact ((List.drop_sublist j parameters).map _).prod_dvd_prod

/-- The choices for all parameters go through those for the later ones once for each type of the
first. -/
theorem placesOfChoice_cons {p : TypeParameter} {rest : List TypeParameter} {i : Nat}
    (hi : i < choiceCount (p :: rest)) :
    placesOfChoice (p :: rest) i =
      i / choiceCount rest :: placesOfChoice rest (i % choiceCount rest) := by
  rw [choiceCount_cons] at hi
  have place : i / choiceCount rest < p.types.length :=
    Nat.div_lt_of_lt_mul (Nat.mul_comm _ _ ▸ hi)
  rw [placesOfChoice, List.mapIdx_cons]
  refine congrArg₂ List.cons (Nat.mod_eq_of_lt place) ?_
  refine List.mapIdx_eq_mapIdx_iff.mpr ?_
  intro j hj
  exact (mod_div_mod_of_dvd (choiceCount_drop_dvd hj) i).symm

theorem placesIn_placesOfChoice {parameters : List TypeParameter} {i : Nat}
    (hi : i < choiceCount parameters) : PlacesIn parameters (placesOfChoice parameters i) := by
  induction parameters generalizing i with
  | nil => exact List.Forall₂.nil
  | cons p rest ih =>
    rw [placesOfChoice_cons hi]
    rw [choiceCount_cons] at hi
    have positive : 0 < choiceCount rest := Nat.pos_of_mul_pos_left (Nat.zero_lt_of_lt hi)
    exact List.Forall₂.cons (Nat.div_lt_of_lt_mul (Nat.mul_comm _ _ ▸ hi))
      (ih (Nat.mod_lt i positive))

theorem choiceOfPlaces_lt {parameters : List TypeParameter} {places : List Nat}
    (h : PlacesIn parameters places) :
    choiceOfPlaces parameters places < choiceCount parameters := by
  induction h with
  | nil => exact Nat.one_pos
  | @cons place p places rest hp _ ih =>
    have step := Nat.mul_le_mul_right (choiceCount rest) (Nat.succ_le_of_lt hp)
    rw [Nat.succ_mul] at step
    rw [choiceOfPlaces, choiceCount_cons]
    omega

theorem placesOfChoice_choiceOfPlaces {parameters : List TypeParameter} {places : List Nat}
    (h : PlacesIn parameters places) :
    placesOfChoice parameters (choiceOfPlaces parameters places) = places := by
  induction h with
  | nil => rfl
  | @cons place p places rest hp hrest ih =>
    have inside := choiceOfPlaces_lt hrest
    rw [placesOfChoice_cons (choiceOfPlaces_lt (List.Forall₂.cons hp hrest)), choiceOfPlaces]
    have high : (place * choiceCount rest + choiceOfPlaces rest places) / choiceCount rest =
        place := by
      rw [Nat.mul_comm, Nat.mul_add_div (by omega), Nat.div_eq_of_lt inside, Nat.add_zero]
    have low : (place * choiceCount rest + choiceOfPlaces rest places) % choiceCount rest =
        choiceOfPlaces rest places := by
      rw [Nat.mul_comm, Nat.mul_add_mod, Nat.mod_eq_of_lt inside]
    rw [high, low, ih]

theorem lt_iff_div_mod {i j n : Nat} :
    i < j ↔ i / n < j / n ∨ i / n = j / n ∧ i % n < j % n := by
  have hi := Nat.div_add_mod i n
  have hj := Nat.div_add_mod j n
  rcases Nat.lt_trichotomy (i / n) (j / n) with lt | eq | gt
  · have before := Nat.lt_of_div_lt_div lt
    exact iff_of_true before (Or.inl lt)
  · rw [eq] at hi
    omega
  · have behind := Nat.lt_of_div_lt_div gt
    omega

/-- Of two choices the earlier one has the earlier place in the first list where they differ. -/
theorem placesOfChoice_lt_iff {parameters : List TypeParameter} {i j : Nat}
    (hi : i < choiceCount parameters) (hj : j < choiceCount parameters) :
    placesOfChoice parameters i < placesOfChoice parameters j ↔ i < j := by
  induction parameters generalizing i j with
  | nil =>
    have one : choiceCount [] = 1 := rfl
    have same : i = j := by omega
    simp [same]
  | cons p rest ih =>
    rw [placesOfChoice_cons hi, placesOfChoice_cons hj, List.cons_lt_cons_iff]
    rw [choiceCount_cons] at hi
    have positive : 0 < choiceCount rest := Nat.pos_of_mul_pos_left (Nat.zero_lt_of_lt hi)
    rw [ih (Nat.mod_lt i positive) (Nat.mod_lt j positive)]
    exact lt_iff_div_mod.symm

/-- In a list made of parts of one length the remainder leads into the part that the quotient
leads to. -/
theorem getElem?_flatMap_of_length {α β : Type} {part : α → List β} {length : Nat}
    {xs : List α} (positive : 0 < length) (each : ∀ x ∈ xs, (part x).length = length) (i : Nat) :
    (xs.flatMap part)[i]? = xs[i / length]?.bind fun x => (part x)[i % length]? := by
  induction xs generalizing i with
  | nil => simp
  | cons x rest ih =>
    have here : (part x).length = length := each x (by simp)
    rw [List.flatMap_cons, List.getElem?_append, here]
    split
    next lt => simp [Nat.div_eq_of_lt lt, Nat.mod_eq_of_lt lt]
    next ge =>
      have round : i = i - length + length := by omega
      rw [ih fun y hy => each y (by simp [hy])]
      conv => rhs; rw [round]
      rw [Nat.add_div_right _ positive, Nat.add_mod_right, List.getElem?_cons_succ]

/-- The i-th row of all choices has the types at the places of the i-th choice. -/
theorem getElem?_rowsOfAll {parameters : List TypeParameter} {i : Nat} {row : List String} :
    (rowsOfAll parameters)[i]? = some row ↔ i < choiceCount parameters ∧
      List.Forall₂ (fun type x => x.1.types[x.2]? = some type) row
        (parameters.zip (placesOfChoice parameters i)) := by
  induction parameters generalizing i row with
  | nil =>
    have one : choiceCount [] = 1 := rfl
    cases i <;> simp [rowsOfAll, placesOfChoice, one, eq_comm]
  | cons p rest ih =>
    have length : ∀ type ∈ p.types,
        ((rowsOfAll rest).map (type :: ·)).length = choiceCount rest := by
      intro type _
      rw [List.length_map, length_rowsOfAll, choiceCount]
    by_cases hi : i < choiceCount (p :: rest)
    · have positive : 0 < choiceCount rest :=
        Nat.pos_of_mul_pos_left (Nat.zero_lt_of_lt (choiceCount_cons p rest ▸ hi))
      rw [rowsOfAll, getElem?_flatMap_of_length positive length, placesOfChoice_cons hi,
        List.zip_cons_cons]
      simp only [Option.bind_eq_some_iff, List.getElem?_map, Option.map_eq_some_iff, ih]
      constructor
      · intro h
        obtain ⟨type, here, tail, ⟨_, there⟩, rfl⟩ := h
        exact ⟨hi, List.Forall₂.cons here there⟩
      · intro h
        obtain ⟨_, typed⟩ := h
        cases typed with
        | cons here there => exact ⟨_, here, _, ⟨Nat.mod_lt i positive, there⟩, rfl⟩
    · have behind : (rowsOfAll (p :: rest)).length ≤ i := by
        rw [length_rowsOfAll]
        exact Nat.not_lt.mp hi
      simp [List.getElem?_eq_none behind, hi]

/-- The rows of all choices, as the instantiations of the parameters. -/
structure EnumeratesChoices (parameters : List TypeParameter) (rows : List Instantiation) :
    Prop where
  count : rows.length = (parameters.map (·.types.length)).prod
  /-- Every row binds every parameter, in the order of the parameters. -/
  names : ∀ r ∈ rows, r.bindings.map (·.1) = parameters.map (·.name)
  /-- The types of a row stand at the places that its number is made of. -/
  types : ∀ i r, rows[i]? = some r →
    List.Forall₂ (fun type x => x.1.types[x.2]? = some type) r.types
      (parameters.zip (placesOfChoice parameters i))
  inside : ∀ i, i < rows.length → PlacesIn parameters (placesOfChoice parameters i)
  /-- All combinations of places are met, each of them once. -/
  once : ∀ places, PlacesIn parameters places →
    ∃! i, i < rows.length ∧ placesOfChoice parameters i = places
  /-- The places of the first parameter change last. -/
  ordered : ∀ i j, i < rows.length → j < rows.length →
    (i < j ↔ placesOfChoice parameters i < placesOfChoice parameters j)

theorem existsUnique_choice {parameters : List TypeParameter} {places : List Nat}
    (h : PlacesIn parameters places) :
    ∃! i, i < choiceCount parameters ∧ placesOfChoice parameters i = places := by
  refine ⟨choiceOfPlaces parameters places,
    ⟨choiceOfPlaces_lt h, placesOfChoice_choiceOfPlaces h⟩, ?_⟩
  intro i other
  obtain ⟨hi, same⟩ := other
  have inside := choiceOfPlaces_lt h
  have before := placesOfChoice_lt_iff hi inside
  have behind := placesOfChoice_lt_iff inside hi
  rw [same, placesOfChoice_choiceOfPlaces h] at before behind
  have notBefore := before.not.mp (List.lt_irrefl places)
  have notBehind := behind.not.mp (List.lt_irrefl places)
  omega

/-- The instantiations by all choices are numbered like the digits of a number: as many as the
product of the lengths of the lists, with each combination of places once and in order. -/
theorem all_enumerates_choices {parameters : List TypeParameter}
    (templated : parameters ≠ []) :
    ∃ rows, Combination.all.instantiations parameters = .ok rows ∧
      EnumeratesChoices parameters rows := by
  obtain ⟨first, rest, rfl⟩ := List.exists_cons_of_ne_nil templated
  have length : ((rowsOfAll (first :: rest)).map (Instantiation.ofRow (first :: rest))).length =
      choiceCount (first :: rest) := by
    rw [List.length_map, length_rowsOfAll, choiceCount]
  refine ⟨_, rfl, length, ?_, ?_, ?_, ?_, ?_⟩
  · intro r hr
    obtain ⟨row, mem, rfl⟩ := List.mem_map.mp hr
    exact Instantiation.names_ofRow (mem_rowsOfAll.mp mem).length_eq
  · intro i r hr
    rw [List.getElem?_map, Option.map_eq_some_iff] at hr
    obtain ⟨row, here, rfl⟩ := hr
    rw [Instantiation.types_ofRow (mem_rowsOfAll.mp (List.mem_of_getElem? here)).length_eq]
    exact (getElem?_rowsOfAll.mp here).2
  · intro i hi
    rw [length] at hi
    exact placesIn_placesOfChoice hi
  · intro places inside
    rw [length]
    exact existsUnique_choice inside
  · intro i j hi hj
    rw [length] at hi hj
    exact (placesOfChoice_lt_iff hi hj).symm

/-- Two parameters, one of them with a type that occurs twice. -/
def sampleParameters : List TypeParameter :=
  [⟨"S", ["uint32_t", "int8_t"]⟩, ⟨"T", ["float", "double", "float"]⟩]

theorem sampleParameters_enumerated : sampleParameters ≠ [] ∧
    ∃ rows, Combination.all.instantiations sampleParameters = .ok rows ∧
      rows[4]? = some ⟨[("S", "int8_t"), ("T", "double")]⟩ ∧
      placesOfChoice sampleParameters 4 = [1, 1] ∧ EnumeratesChoices sampleParameters rows := by
  have templated : sampleParameters ≠ [] := by decide
  obtain ⟨rows, instantiated, enumerated⟩ := all_enumerates_choices templated
  cases instantiated
  exact ⟨templated, _, rfl, rfl, by decide, enumerated⟩

end TemplateExport
