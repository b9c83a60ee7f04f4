import TemplateExport.Config.Basic
import TemplateExport.Proofs.Acceptance
import TemplateExport.Proofs.RowOrder

namespace TemplateExport

theorem zipWith_cons_sublist {types : List String} {tails all : List (List String)}
    (inside : ∀ tail ∈ tails, tail ∈ all) :
    (List.zipWith List.cons types tails).Sublist
      (types.flatMap fun type => all.map (type :: ·)) := by
  induction types generalizing tails with
  | nil => exact List.nil_sublist _
  | cons type types ih =>
    cases tails with
    | nil => exact List.nil_sublist _
    | cons tail tails =>
      have here : [type :: tail].Sublist (all.map (type :: ·)) :=
        List.singleton_sublist.mpr (List.mem_map_of_mem (inside tail (by simp)))
      have there := ih fun other mem => inside other (List.mem_cons_of_mem _ mem)
      exact here.append there

/-- The rows of equal places are rows of all choices, in the same order. -/
theorem rowsOfFixed_sublist_rowsOfAll (count : Nat) (p : TypeParameter)
    (rest : List TypeParameter) :
    (rowsOfFixed count (p :: rest)).Sublist (rowsOfAll (p :: rest)) := by
  refine zipWith_cons_sublist ?_
  intro tail mem
  obtain ⟨i, hi⟩ := List.mem_iff_getElem?.mp mem
  exact mem_rowsOfAll.mpr ((getElem?_rowsOfFixed.mp hi).2.imp fun _ _ => List.mem_of_getElem?)

theorem rowsOfFixed_singleton (p : TypeParameter) :
    rowsOfFixed p.types.length [p] = rowsOfAll [p] := by
  have same : (rowsOfFixed p.types.length [p]).length = (rowsOfAll [p]).length := by
    rw [length_rowsOfAll, length_rowsOfFixed (by simp)]
    simp
  exact (rowsOfFixed_sublist_rowsOfAll _ p []).eq_of_length same

/-- Equal places in all lists are places of a choice. -/
theorem placesIn_replicate {parameters : List TypeParameter} {i : Nat} {row : List String}
    (typed : List.Forall₂ (fun type p => p.types[i]? = some type) row parameters) :
    PlacesIn parameters (List.replicate parameters.length i) ∧
      List.Forall₂ (fun type x => x.1.types[x.2]? = some type) row
        (parameters.zip (List.replicate parameters.length i)) := by
  induction typed with
  | nil => exact ⟨List.Forall₂.nil, List.Forall₂.nil⟩
  | cons here _ ih =>
    obtain ⟨inside, there⟩ := ih
    obtain ⟨hi, _⟩ := List.getElem?_eq_some_iff.mp here
    exact ⟨List.Forall₂.cons hi inside, List.Forall₂.cons here there⟩

/-- The row of a place is the choice of that place in every list. -/
theorem exists_choice_of_fixed {parameters : List TypeParameter} {count i : Nat}
    {row : List String} (h : (rowsOfFixed count parameters)[i]? = some row) :
    ∃ n, (rowsOfAll parameters)[n]? = some row ∧
      placesOfChoice parameters n = List.replicate parameters.length i := by
  obtain ⟨inside, typed⟩ := placesIn_replicate (getElem?_rowsOfFixed.mp h).2
  have places := placesOfChoice_choiceOfPlaces inside
  exact ⟨_, getElem?_rowsOfAll.mpr ⟨choiceOfPlaces_lt inside, places.symm ▸ typed⟩, places⟩

section Pairing

variable {first : TypeParameter} {rest : List TypeParameter}

theorem fixed_instantiations_eq_ok_iff {rows : List Instantiation} :
    Combination.fixed.instantiations (first :: rest) = .ok rows ↔
      (∀ p ∈ first :: rest, p.types.length = first.types.length) ∧
        (rowsOfFixed first.types.length (first :: rest)).map (.ofRow (first :: rest)) = rows := by
  have even : (first :: rest).find? (fun p => p.types.length != first.types.length) = none ↔
      ∀ p ∈ first :: rest, p.types.length = first.types.length := by
    simp [List.find?_eq_none]
  rw [← even, Combination.instantiations]
  cases (first :: rest).find? (fun p => p.types.length != first.types.length) with
  | none => simp
  | some p => simp

/-- The first list of another length than that of the first parameter is refused. -/
theorem fixed_instantiations_eq_error_iff {problem : Problem} :
    Combination.fixed.instantiations (first :: rest) = .error problem ↔
      ∃ before p behind, first :: rest = before ++ p :: behind ∧
        (∀ q ∈ before, q.types.length = first.types.length) ∧
        p.types.length ≠ first.types.length ∧
        problem = .invalidValue "templates" p.name
          (.unevenLists first.types.length p.types.length) := by
  have uneven (p : TypeParameter) :
      (first :: rest).find? (fun p => p.types.length != first.types.length) = some p ↔
        p.types.length ≠ first.types.length ∧ ∃ before behind,
          first :: rest = before ++ p :: behind ∧
            ∀ q ∈ before, q.types.length = first.types.length := by
    rw [List.find?_eq_some_iff_append]
    simp
  rw [Combination.instantiations]
  cases found : (first :: rest).find? (fun p => p.types.length != first.types.length) with
  | none =>
    refine iff_of_false (by simp) ?_
    intro h
    obtain ⟨before, p, behind, split, even, differs, _⟩ := h
    have refused := (uneven p).mpr ⟨differs, before, behind, split, even⟩
    rw [found] at refused
    cases refused
  | some p =>
    simp only [Except.error.injEq]
    constructor
    · intro refused
      obtain ⟨differs, before, behind, split, even⟩ := (uneven p).mp found
      exact ⟨before, p, behind, split, even, differs, refused.symm⟩
    · intro h
      obtain ⟨before, q, behind, split, even, differs, rfl⟩ := h
      have same := (uneven q).mpr ⟨differs, before, behind, split, even⟩
      rw [found] at same
      cases same
      rfl

end Pairing

/-- The rows of equal places among the rows of all choices. -/
structure DiagonalOf (parameters : List TypeParameter) (all rows : List Instantiation) : Prop where
  count : ∀ p ∈ parameters, rows.length = p.types.length
  names : ∀ r ∈ rows, r.bindings.map (·.1) = parameters.map (·.name)
  types : ∀ (i : Nat) (r : Instantiation), rows[i]? = some r →
    List.Forall₂ (fun type p => p.types[i]? = some type) r.types parameters
  /-- The i-th row is the choice that takes the i-th type of every list. -/
  located : ∀ (i : Nat) (r : Instantiation), rows[i]? = some r → ∃ n, all[n]? = some r ∧
    placesOfChoice parameters n = List.replicate parameters.length i
  sublist : rows.Sublist all
  whole : parameters.length = 1 → rows = all

theorem diagonalOf_fixed {first : TypeParameter} {rest : List TypeParameter}
    (even : ∀ p ∈ first :: rest, p.types.length = first.types.length) :
    DiagonalOf (first :: rest)
      ((rowsOfAll (first :: rest)).map (.ofRow (first :: rest)))
      ((rowsOfFixed first.types.length (first :: rest)).map (.ofRow (first :: rest))) := by
  have typed {i : Nat} {r : Instantiation}
      (h : ((rowsOfFixed first.types.length (first :: rest)).map
        (Instantiation.ofRow (first :: rest)))[i]? = some r) :
      ∃ row, (rowsOfFixed first.types.length (first :: rest))[i]? = some row ∧
        Instantiation.ofRow (first :: rest) row = r ∧ row.length = (first :: rest).length := by
    rw [List.getElem?_map, Option.map_eq_some_iff] at h
    obtain ⟨row, here, made⟩ := h
    exact ⟨row, here, made, (getElem?_rowsOfFixed.mp here).2.length_eq⟩
  refine ⟨?_, ?_, ?_, ?_, (rowsOfFixed_sublist_rowsOfAll _ first rest).map _, ?_⟩
  · intro p hp
    rw [List.length_map, length_rowsOfFixed even, even p hp]
  · intro r hr
    obtain ⟨i, hi⟩ := List.mem_iff_getElem?.mp hr
    obtain ⟨row, _, rfl, length⟩ := typed hi
    exact Instantiation.names_ofRow length
  · intro i r hr
    obtain ⟨row, here, rfl, length⟩ := typed hr
    rw [Instantiation.types_ofRow length]
    exact (getElem?_rowsOfFixed.mp here).2
  · intro i r hr
    obtain ⟨row, here, rfl, _⟩ := typed hr
    obtain ⟨n, there, places⟩ := exists_choice_of_fixed here
    exact ⟨n, by rw [List.getElem?_map, there]; rfl, places⟩
  · intro single
    obtain rfl : rest = [] := by simpa using single
    rw [rowsOfFixed_singleton]

namespace FunctionTemplate

theorem rows_sublist_rowsOfAll (f : FunctionTemplate) :
    f.rows.Sublist (rowsOfAll f.typeParameters) := by
  unfold rows
  split
  next => exact List.nil_sublist _
  next first rest hp _ => rw [hp]
  next first rest hp _ =>
    rw [hp]
    exact rowsOfFixed_sublist_rowsOfAll _ first rest

/-- The function that pairs the type lists of another one. -/
def paired (f : FunctionTemplate) : FunctionTemplate :=
  (FunctionEdit.combine .fixed).apply f

theorem rows_paired_sublist (f : FunctionTemplate) : f.paired.rows.Sublist f.rows := by
  obtain ⟨name, parameters, combination, returns, arguments⟩ := f
  cases parameters with
  | nil => exact List.nil_sublist _
  | cons first rest =>
    cases combination with
    | all => exact rowsOfFixed_sublist_rowsOfAll _ first rest
    | fixed => exact List.Sublist.refl _

theorem Accepted.paired {f : FunctionTemplate} (accepted : f.Accepted) : f.paired.Accepted := by
  obtain ⟨name, templated, typeParameters, typeNames, returns, parameters, names⟩ := accepted
  exact ⟨name, templated, typeParameters, typeNames, returns, parameters, names⟩

theorem names_paired_sublist (f : FunctionTemplate) (m : SuffixMapping) :
    (f.paired.exports.map (·.name m)).Sublist (f.exports.map (·.name m)) := by
  have names (g : FunctionTemplate) : g.exports.map (·.name m) =
      g.rows.map fun row => m.symbol g (.ofRow g.typeParameters row) := by
    rw [exports, List.map_map]
    rfl
  rw [names, names]
  exact f.rows_paired_sublist.map _

end FunctionTemplate

namespace Config

/-- The configuration in which one function pairs its type lists. -/
def paired (c : Config) (i : Nat) : Config :=
  (Edit.editFunction i (.combine .fixed)).apply c

theorem functions_paired {c : Config} {i : Nat} {f : FunctionTemplate}
    (here : c.functions[i]? = some f) :
    ∃ before behind, c.functions = before ++ f :: behind ∧
      (c.paired i).functions = before ++ f.paired :: behind := by
  obtain ⟨hi, rfl⟩ := List.getElem?_eq_some_iff.mp here
  refine ⟨c.functions.take i, c.functions.drop (i + 1), ?_, List.modify_eq_take_cons_drop hi⟩
  rw [← List.drop_eq_getElem_cons hi, List.take_append_drop]

/-- A function that pairs its lists claims some of the names that it claims by all choices. -/
theorem Accepted.paired {c : Config} (accepted : c.Accepted) {i : Nat}
    {f : FunctionTemplate} (here : c.functions[i]? = some f)
    (even : ∀ p ∈ f.typeParameters, ∀ q ∈ f.typeParameters,
      p.types.length = q.types.length) :
    (c.paired i).Accepted ∧
      (wrapperNames c.suffixes (c.paired i).functions).Sublist
        (wrapperNames c.suffixes c.functions) := by
  obtain ⟨before, behind, split, changed⟩ := functions_paired here
  have claims : (wrapperNames c.suffixes (c.paired i).functions).Sublist
      (wrapperNames c.suffixes c.functions) := by
    rw [split, changed, wrapperNames_append, wrapperNames_append, wrapperNames_cons,
      wrapperNames_cons]
    exact ((f.names_paired_sublist c.suffixes).append_right _).append_left _
  have member : f ∈ c.functions := List.mem_of_getElem? here
  have known : ∀ g ∈ (c.paired i).functions, g ∈ c.functions ∨ g = f.paired := by
    rw [split, changed]
    simp only [List.mem_append, List.mem_cons]
    tauto
  refine ⟨⟨accepted.linkage, accepted.includes, accepted.suffixes, ?_, ?_, ?_,
    accepted.symbols.sublist claims⟩, claims⟩
  · rw [changed]
    simp
  · intro g hg
    rcases known g hg with hg | rfl
    · exact accepted.functions g hg
    · exact (accepted.functions f member).paired
  · intro g hg
    rcases known g hg with hg | rfl
    · exact accepted.even g hg
    · exact fun _ => even

end Config

/-- Paired lists are the diagonal of all choices: they must have one length, the first list of
another one is refused, and the row of a place takes that place in every list. To pair the even
lists of a function leaves a configuration valid and only takes symbols away. -/
theorem fixed_is_diagonal_of_all :
    (∀ first rest,
      ((∃ rows, Combination.fixed.instantiations (first :: rest) = .ok rows) ↔
        ∀ p ∈ first :: rest, p.types.length = first.types.length) ∧
      (∀ problem, Combination.fixed.instantiations (first :: rest) = .error problem ↔
        ∃ before p behind, first :: rest = before ++ p :: behind ∧
          (∀ q ∈ before, q.types.length = first.types.length) ∧
          p.types.length ≠ first.types.length ∧
          problem = .invalidValue "templates" p.name
            (.unevenLists first.types.length p.types.length)) ∧
      ∀ rows, Combination.fixed.instantiations (first :: rest) = .ok rows →
        ∃ all, Combination.all.instantiations (first :: rest) = .ok all ∧
          DiagonalOf (first :: rest) all rows) ∧
    ∀ (c : Config) (i : Nat) (f : FunctionTemplate), c.validate = .ok () →
      c.functions[i]? = some f → f.combination = .all →
      (∀ p ∈ f.typeParameters, ∀ q ∈ f.typeParameters, p.types.length = q.types.length) →
      ((Edit.editFunction i (.combine .fixed)).apply c).validate = .ok () ∧
        ∃ symbols others, c.exportedSymbols = .ok symbols ∧
          ((Edit.editFunction i (.combine .fixed)).apply c).exportedSymbols = .ok others ∧
          others.Sublist symbols := by
  refine ⟨fun first rest => ⟨?_, fun _ => fixed_instantiations_eq_error_iff, ?_⟩, ?_⟩
  · simp only [fixed_instantiations_eq_ok_iff, exists_and_left, exists_eq', and_true]
  · intro rows instantiated
    obtain ⟨even, rfl⟩ := fixed_instantiations_eq_ok_iff.mp instantiated
    exact ⟨_, rfl, diagonalOf_fixed even⟩
  · intro c i f valid here _ even
    have accepted := Config.validate_eq_ok_iff.mp valid
    obtain ⟨paired, claims⟩ := accepted.paired here even
    exact ⟨Config.validate_eq_ok_iff.mpr paired, _, _, accepted.exportedSymbols_eq,
      paired.exportedSymbols_eq, claims⟩

theorem sampleLibrary_paired :
    Combination.fixed.instantiations sampleParameters =
      .error (.invalidValue "templates" "T" (.unevenLists 2 3)) ∧
    sampleLibrary.validate = .ok () ∧
    ((Edit.editFunction 0 (.combine .fixed)).apply sampleLibrary).validate = .ok () ∧
    ∃ symbols others, sampleLibrary.exportedSymbols = .ok symbols ∧
      ((Edit.editFunction 0 (.combine .fixed)).apply sampleLibrary).exportedSymbols = .ok others ∧
      others = ["add_ui32_f32", "add_i8_f64", "scale_h_f32", "scale_f32_f64"] ∧
      others.Sublist symbols := by
  obtain ⟨lists, configs⟩ := fixed_is_diagonal_of_all
  obtain ⟨_, refused, _⟩ :=
    lists ⟨"S", ["uint32_t", "int8_t"]⟩ [⟨"T", ["float", "double", "float"]⟩]
  obtain ⟨valid, symbols, others, claimed, paired, part⟩ :=
    configs sampleLibrary 0 _ sampleLibrary_validate rfl rfl (by decide)
  have names : ((Edit.editFunction 0 (.combine .fixed)).apply sampleLibrary).exportedSymbols =
      .ok ["add_ui32_f32", "add_i8_f64", "scale_h_f32", "scale_f32_f64"] :=
    rfl
  have uneven : Combination.fixed.instantiations sampleParameters =
      .error (.invalidValue "templates" "T" (.unevenLists 2 3)) :=
    (refused _).mpr ⟨[⟨"S", ["uint32_t", "int8_t"]⟩], _, [], rfl, by decide, by decide, rfl⟩
  exact ⟨uneven, sampleLibrary_validate, valid, symbols, others, claimed, paired,
    Except.ok.inj (paired.symm.trans names), part⟩

end TemplateExport
