import TemplateExport.Proofs.Rendering

namespace TemplateExport

/-- The wrapper whose branch is taken when the type parameters stand for the types that an
assignment gives to their names: the first one whose condition holds. -/
def Wrapper.taken (σ : String → String) (ws : List Wrapper) : Option Wrapper :=
  ws.find? fun w => ∀ x ∈ w.instantiation.bindings, σ x.1 = x.2

/-- An assignment of types that the function is to be instantiated with. -/
def FunctionTemplate.Offers (f : FunctionTemplate) (σ : String → String) : Prop :=
  match f.combination with
  | .all => ∀ p ∈ f.typeParameters, σ p.name ∈ p.types
  | .fixed => ∃ i : Nat, ∀ p ∈ f.typeParameters, p.types[i]? = some (σ p.name)

theorem zip_agrees_iff {σ : String → String} {names row : List String}
    (h : row.length = names.length) :
    (∀ x ∈ names.zip row, σ x.1 = x.2) ↔ row = names.map σ := by
  induction names generalizing row with
  | nil => simp [List.length_eq_zero_iff.mp h]
  | cons name names ih =>
    cases row with
    | nil => simp at h
    | cons type row =>
      rw [List.zip_cons_cons, List.forall_mem_cons, ih (by simpa using h), List.map_cons,
        List.cons.injEq, eq_comm]

theorem filter_eq_singleton_of_nodup {α : Type} {key : α → String} {xs : List α} {x : α}
    (nodup : (xs.map key).Nodup) (hx : x ∈ xs) :
    xs.filter (fun y => key y = key x) = [x] := by
  induction xs with
  | nil => simp at hx
  | cons y ys ih =>
    obtain ⟨apart, rest⟩ := List.nodup_cons.mp nodup
    rcases List.mem_cons.mp hx with rfl | hx
    · have none : ys.filter (fun y => key y = key x) = [] := by
        refine List.filter_eq_nil_iff.mpr ?_
        intro y hy same
        exact apart (List.mem_map.mpr ⟨y, hy, by simpa using same⟩)
      rw [List.filter_cons, none]
      simp
    · have differ : key y ≠ key x := by
        intro same
        exact apart (List.mem_map.mpr ⟨x, hx, same.symm⟩)
      rw [List.filter_cons, ih rest hx]
      simp [differ]

namespace FunctionTemplate

theorem typeNames_length (f : FunctionTemplate) :
    f.typeNames.length = f.typeParameters.length :=
  List.length_map ..

/-- The rows of types are the choices that the function offers. -/
theorem mem_rows_iff_offers {f : FunctionTemplate} {σ : String → String}
    (templated : f.typeParameters ≠ []) : f.typeNames.map σ ∈ f.rows ↔ f.Offers σ := by
  obtain ⟨first, rest, hp⟩ := List.exists_cons_of_ne_nil templated
  rw [typeNames, List.map_map, rows, Offers]
  cases hc : f.combination with
  | all =>
    simp only [hp]
    rw [mem_rowsOfAll, List.forall₂_map_left_iff, List.forall₂_same]
    rfl
  | fixed =>
    simp only [hp]
    rw [List.mem_iff_getElem?]
    simp only [getElem?_rowsOfFixed, List.forall₂_map_left_iff, List.forall₂_same]
    constructor
    · intro h
      obtain ⟨i, _, each⟩ := h
      exact ⟨i, each⟩
    · intro h
      obtain ⟨i, each⟩ := h
      obtain ⟨hi, _⟩ := List.getElem?_eq_some_iff.mp (each first (by simp))
      exact ⟨i, hi, each⟩

/-- The condition of a branch says that the parameters stand for the types of its row. -/
theorem branch_holds_iff {f : FunctionTemplate} {σ : String → String} {row : List String}
    (h : row ∈ f.rows) :
    (∀ x ∈ (Instantiation.ofRow f.typeParameters row).bindings, σ x.1 = x.2) ↔
      row = f.typeNames.map σ :=
  zip_agrees_iff ((length_of_mem_rows h).trans f.typeNames_length.symm)

theorem taken_eq_none_iff {f : FunctionTemplate} {σ : String → String}
    (templated : f.typeParameters ≠ []) : Wrapper.taken σ f.exports = none ↔ ¬f.Offers σ := by
  rw [← mem_rows_iff_offers templated, Wrapper.taken, List.find?_eq_none, exports,
    List.forall_mem_map]
  constructor
  · intro none offered
    exact none _ offered (by simpa using (branch_holds_iff offered).mpr rfl)
  · intro absent row hr holds
    have same := (branch_holds_iff hr).mp (by simpa using holds)
    exact absent (same ▸ hr)

theorem bindings_of_taken {f : FunctionTemplate} {σ : String → String} {w : Wrapper}
    (h : Wrapper.taken σ f.exports = some w) : w ∈ f.exports ∧ w.function = f ∧
      w.instantiation.bindings = f.typeNames.map fun name => (name, σ name) := by
  have hw := List.mem_of_find?_eq_some h
  obtain ⟨row, hr, rfl⟩ := List.mem_map.mp hw
  have holds : ∀ x ∈ (Instantiation.ofRow f.typeParameters row).bindings, σ x.1 = x.2 := by
    simpa using List.find?_some h
  have same := (branch_holds_iff hr).mp holds
  refine ⟨hw, rfl, ?_⟩
  have zipped : f.typeNames.zip (f.typeNames.map σ) =
      f.typeNames.map fun name => (name, σ name) := by
    simpa using List.zip_map' (f := id) (g := σ) (l := f.typeNames)
  rw [same]
  exact zipped

end FunctionTemplate

/-- A dispatching template calls the wrapper of the types that its parameters stand for, and that
wrapper, which no other definition has the name of, calls the template with just these types and
the same arguments. -/
theorem dispatch_selects_instantiation {c : Config} {f : FunctionTemplate}
    (valid : c.validate = .ok ()) (hf : f ∈ c.functions) (σ : String → String) :
    ∃ s header implementation,
      c.render = .ok s ∧ s.header = fileText header ∧ s.implementation = fileText implementation ∧
      f.dispatchTexts c.suffixes <:+: header ∧
      implementation ++ [""] = c.implementationPreamble.map (·.text) ++
        c.exports.flatMap (·.definitionTexts c.suffixes c.linkageLabel ++ [""]) ∧
      (Wrapper.taken σ f.exports = none ↔ ¬f.Offers σ) ∧
      ∀ w, Wrapper.taken σ f.exports = some w →
        (∃ keyword ∈ ["if", "else if"],
          ["    " ++ keyword ++ " constexpr (" ++ " && ".intercalate (f.typeNames.map fun name =>
              "std::is_same_v<" ++ σ name ++ ", " ++ name ++ ">") ++ ") \x7b",
            "        return " ++ w.name c.suffixes ++ "(" ++ f.argumentsText ++ ");",
            "    \x7d"] <:+: f.dispatchTexts c.suffixes) ∧
        c.exports.filter (·.name c.suffixes = w.name c.suffixes) = [w] ∧
        [c.linkageLabel ++ "_EXPORT " ++ w.signatureText c.suffixes ++ " \x7b",
          "    return " ++ f.name ++ "<" ++ ", ".intercalate (f.typeNames.map σ) ++ ">(" ++
            f.argumentsText ++ ");",
          "\x7d"] <:+: implementation := by
  have accepted := Config.validate_eq_ok_iff.mp valid
  obtain ⟨implementation, rendered, lines⟩ := accepted.exists_files
  refine ⟨_, _, implementation, rendered, rfl, rfl, FunctionTemplate.dispatchTexts_infix hf,
    lines, FunctionTemplate.taken_eq_none_iff (accepted.functions f hf).templated, ?_⟩
  intro w taken
  obtain ⟨hw, called, bound⟩ := FunctionTemplate.bindings_of_taken taken
  have member := Config.mem_exports hf hw
  have condition : w.conditionText = " && ".intercalate (f.typeNames.map fun name =>
      "std::is_same_v<" ++ σ name ++ ", " ++ name ++ ">") := by
    rw [Wrapper.conditionText, bound, List.map_map]
    rfl
  have types : w.instantiation.types = f.typeNames.map σ := by
    rw [Instantiation.types, bound, List.map_map]
    rfl
  refine ⟨?_, filter_eq_singleton_of_nodup accepted.symbols.nodup member, ?_⟩
  · have branch := FunctionTemplate.exists_branchTexts hw c.suffixes
    simpa only [Wrapper.branchTexts, condition, called] using branch
  · have definition := Wrapper.definitionTexts_infix lines member
    rwa [Wrapper.definitionTexts, types, called] at definition

theorem sampleLibrary_dispatched : sampleLibrary.validate = .ok () ∧
    ∃ f ∈ sampleLibrary.functions, ∃ s implementation w,
      sampleLibrary.render = .ok s ∧ s.implementation = fileText implementation ∧
      sampleLibrary.exports.filter (·.name sampleLibrary.suffixes = "add_i8_f64") = [w] ∧
      ["        return add_i8_f64(left, right);"] <:+: f.dispatchTexts sampleLibrary.suffixes ∧
      ["    return add<int8_t, double>(left, right);"] <:+: implementation := by
  have member : sampleLibrary.functions[0] ∈ sampleLibrary.functions := List.getElem_mem _
  let σ : String → String := fun name => if name = "S" then "int8_t" else "double"
  obtain ⟨s, _, implementation, rendered, _, written, _, _, _, route⟩ :=
    dispatch_selects_instantiation sampleLibrary_validate member σ
  obtain ⟨⟨keyword, _, branch⟩, own, definition⟩ := route
    ⟨sampleLibrary.functions[0], ⟨[("S", "int8_t"), ("T", "double")]⟩⟩ rfl
  have call := (List.infix_append [_] ["        return add_i8_f64(left, right);"] [_]).trans branch
  exact ⟨sampleLibrary_validate, _, member, s, implementation, _, rendered, written, own, call,
    (List.infix_append [_] ["    return add<int8_t, double>(left, right);"] [_]).trans definition⟩

end TemplateExport
