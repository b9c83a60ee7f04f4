import TemplateExport.Signature
import TemplateExport.Proofs.Rows
import Mathlib.Logic.ExistsUnique

namespace TemplateExport

/-- What a declaration puts behind the type of an argument. -/
def Argument.marks (a : Argument) : String :=
  (if a.isConst then " const" else "") ++ (if a.isPointer then "*" else "")

theorem Argument.spell_eq (a : Argument) (type : String) : a.spell type = type ++ a.marks :=
  String.append_assoc

/-- Parameters in brackets, each with its type, its marks and its name. -/
def bracketed (parameters : List Argument) (empty : String) : String :=
  "(" ++ (if parameters.isEmpty then empty
    else ", ".intercalate (parameters.map fun a => a.type ++ a.marks ++ " " ++ a.label)) ++ ")"

theorem bracketed_of_ne_nil {parameters : List Argument} (some : parameters ≠ [])
    (empty other : String) : bracketed parameters empty = bracketed parameters other := by
  simp [bracketed, some]

theorem FunctionTemplate.cppSignature_eq (f : FunctionTemplate) :
    f.cppSignature = f.templateHead ++ " " ++ f.returns.type ++ f.returns.marks ++ " " ++ f.name ++
      bracketed f.parameters "" := by
  have parameters : ", ".intercalate (f.parameterList id) =
      if f.parameters.isEmpty then ""
      else ", ".intercalate (f.parameters.map fun a => a.type ++ a.marks ++ " " ++ a.label) := by
    split
    next none => simp [parameterList, List.isEmpty_iff.mp none]
    next => simp only [parameterList, Argument.declaration, Argument.spell_eq, id_eq]
  rw [cppSignature, parameters, Argument.spell_eq, bracketed]
  simp only [String.append_assoc]

/-- What becomes of a type as types take the places of names, all at once: the j-th name gives way
to the j-th type, and any other type is kept. -/
structure Replaces (names types : List String) (type replaced : String) : Prop where
  bound : ∀ j : Nat, names[j]? = some type → types[j]? = some replaced
  free : type ∉ names → replaced = type

theorem Instantiation.replaces_iff {r : Instantiation}
    (distinct : (r.bindings.map (·.1)).Nodup) {type replaced : String} :
    Replaces (r.bindings.map (·.1)) r.types type replaced ↔ replaced = r.resolve type := by
  by_cases named : type ∈ r.bindings.map (·.1)
  · have bound (j : Nat) : (r.bindings.map (·.1))[j]? = some type →
        r.types[j]? = some (r.resolve type) := by
      intro hj
      rw [List.getElem?_map, Option.map_eq_some_iff] at hj
      obtain ⟨⟨_, concrete⟩, here, rfl⟩ := hj
      rw [types, List.getElem?_map, here, resolve_of_mem distinct (List.mem_of_getElem? here)]
      rfl
    constructor
    · intro h
      obtain ⟨j, hj⟩ := List.mem_iff_getElem?.mp named
      exact Option.some.inj ((h.bound j hj).symm.trans (bound j hj))
    · intro same
      exact ⟨fun j hj => same ▸ bound j hj, fun absent => absurd named absent⟩
  · rw [resolve_of_not_mem named]
    constructor
    · intro h
      exact h.free named
    · intro kept
      exact ⟨fun j hj => absurd (List.mem_of_getElem? hj) named, fun _ => kept⟩

/-- The same argument but for its type, which types in the places of names have replaced. -/
def Argument.Retypes (names types : List String) (a b : Argument) : Prop :=
  ∃ type, Replaces names types a.type type ∧ b = { a with type }

namespace FunctionTemplate

/-- The function that an instantiation makes of a template: it has the name of the wrapper, and in
its result and its parameters the types of the row stand for the type parameters. -/
def Specializes (m : SuffixMapping) (r : Instantiation) (f g : FunctionTemplate) : Prop :=
  ∃ returns parameters, f.returns.Retypes f.typeNames r.types returns ∧
    List.Forall₂ (Argument.Retypes f.typeNames r.types) f.parameters parameters ∧
    g = { f with name := m.symbol f r, returns, parameters }

/-- The function that is made by looking up every type among the bindings. -/
def specialized (m : SuffixMapping) (r : Instantiation) (f : FunctionTemplate) : FunctionTemplate :=
  { f with
    name := m.symbol f r
    returns := { f.returns with type := r.resolve f.returns.type }
    parameters := f.parameters.map fun a => { a with type := r.resolve a.type } }

variable {f g : FunctionTemplate} {m : SuffixMapping} {r : Instantiation}

theorem specializes_iff (bound : r.bindings.map (·.1) = f.typeNames)
    (distinct : f.typeNames.Nodup) : f.Specializes m r g ↔ g = f.specialized m r := by
  have retypes : Argument.Retypes f.typeNames r.types =
      fun a b => { a with type := r.resolve a.type } = b := by
    funext a b
    rw [Argument.Retypes, ← bound]
    simp only [Instantiation.replaces_iff (bound ▸ distinct), exists_eq_left, eq_comm]
  have parameters (others : List Argument) :
      List.Forall₂ (Argument.Retypes f.typeNames r.types) f.parameters others ↔
        f.parameters.map (fun a => { a with type := r.resolve a.type }) = others := by
    rw [retypes, ← List.forall₂_map_left_iff, List.forall₂_eq_eq_eq]
  simp only [Specializes, parameters]
  simp only [retypes, exists_and_left, exists_eq_left']
  rfl

theorem cSignature_eq (f : FunctionTemplate) (m : SuffixMapping) (r : Instantiation) :
    f.cSignature r m = (f.specialized m r).returns.type ++ f.returns.marks ++ " " ++
      (f.specialized m r).name ++ bracketed (f.specialized m r).parameters "void" := by
  have parameters : f.parameterList r.resolve =
      (f.specialized m r).parameters.map fun a => a.type ++ a.marks ++ " " ++ a.label := by
    simp only [parameterList, specialized, List.map_map]
    refine List.map_congr_left fun a _ => ?_
    rw [Argument.declaration, Argument.spell_eq]
    rfl
  rw [cSignature, WrapperSignature.text, wrapperSignature, parameters, Argument.spell_eq,
    bracketed, List.isEmpty_map]
  simp only [String.append_assoc]
  rfl

end FunctionTemplate

/-- The declaration of a template, that of one of its wrappers, and the template `g` that the
instantiation makes of it. -/
structure InStep (m : SuffixMapping) (r : Instantiation) (f g : FunctionTemplate) : Prop where
  signature : f.parameters ≠ [] → g.cppSignature = f.templateHead ++ " " ++ f.cSignature r m
  empty : f.parameters = [] → ∃ declaration,
    g.cppSignature = f.templateHead ++ " " ++ declaration ++ "()" ∧
      f.cSignature r m = declaration ++ "(void)"
  generic : f.cppSignature = f.templateHead ++ " " ++ f.returns.type ++ f.returns.marks ++ " " ++
    f.name ++ bracketed f.parameters ""
  concrete : f.cSignature r m = g.returns.type ++ f.returns.marks ++ " " ++ g.name ++
    bracketed g.parameters "void"
  marks : g.parameters.map (·.marks) = f.parameters.map (·.marks)
  labels : g.parameters.map (·.label) = f.parameters.map (·.label)
  forwarded : f.forwardedArguments = ", ".intercalate (g.parameters.map (·.label))

theorem inStep_specialized (m : SuffixMapping) (r : Instantiation) (f : FunctionTemplate) :
    InStep m r f (f.specialized m r) := by
  have marks : (f.specialized m r).parameters.map (·.marks) = f.parameters.map (·.marks) :=
    List.map_map
  have labels : (f.specialized m r).parameters.map (·.label) = f.parameters.map (·.label) :=
    List.map_map
  have head : (f.specialized m r).templateHead = f.templateHead := rfl
  have returns : (f.specialized m r).returns.marks = f.returns.marks := rfl
  have cpp := (f.specialized m r).cppSignature_eq
  have c := f.cSignature_eq m r
  rw [head, returns] at cpp
  refine ⟨?_, ?_, f.cppSignature_eq, c, marks, labels, by rw [labels]; rfl⟩
  · intro some
    have some' : (f.specialized m r).parameters ≠ [] := by simpa [FunctionTemplate.specialized]
    rw [cpp, c, bracketed_of_ne_nil some' "" "void"]
    simp only [String.append_assoc]
  · intro none
    have none' : (f.specialized m r).parameters = [] := by simp [FunctionTemplate.specialized, none]
    refine ⟨(f.specialized m r).returns.type ++ f.returns.marks ++ " " ++
      (f.specialized m r).name, ?_, ?_⟩
    · rw [cpp, none']
      simp only [String.append_assoc]
      rfl
    · rw [c, none']
      rfl

/-- The row of an instantiation can be put in the place of the type parameters in one way, and then
the template is declared word for word as the wrapper is, behind the line with the type
parameters; of an empty parameter list only the wrapper says `void`. So both declarations have the
same parameters with the same marks, in the order in which they are passed on. -/
theorem signatures_in_step {f : FunctionTemplate} {rows : List Instantiation} {r : Instantiation}
    (distinct : f.typeNames.Nodup) (instantiated : f.instantiations = .ok rows) (mem : r ∈ rows)
    (m : SuffixMapping) :
    (∃! g, f.Specializes m r g) ∧ ∀ g, f.Specializes m r g → InStep m r f g := by
  have bound := FunctionTemplate.names_of_instantiated instantiated mem
  simp only [FunctionTemplate.specializes_iff bound distinct, existsUnique_eq, true_and, forall_eq]
  exact inStep_specialized m r f

/-- A function whose first type parameter stands for a type with the name of the second one. -/
def crossedFunction : FunctionTemplate where
  name := "find"
  typeParameters := [⟨"S", ["T", "float"]⟩, ⟨"T", ["double"]⟩]
  combination := .all
  returns := ⟨none, "T", true, true⟩
  parameters := [⟨some "values", "S", true, true⟩, ⟨some "count", "size_t", false, false⟩,
    ⟨some "key", "T", true, false⟩]

theorem crossedFunction_in_step :
    crossedFunction.typeNames.Nodup ∧
    crossedFunction.instantiations =
      .ok [⟨[("S", "T"), ("T", "double")]⟩, ⟨[("S", "float"), ("T", "double")]⟩] ∧
    ∃ g, crossedFunction.Specializes ⟨.empty⟩ ⟨[("S", "T"), ("T", "double")]⟩ g ∧
      g.cppSignature = "template <typename S, typename T> " ++
        "double const* find_T_f64(T const* values, size_t count, double const key)" ∧
      crossedFunction.cSignature ⟨[("S", "T"), ("T", "double")]⟩ ⟨.empty⟩ =
        "double const* find_T_f64(T const* values, size_t count, double const key)" := by
  have distinct : crossedFunction.typeNames.Nodup := by decide
  have instantiated : crossedFunction.instantiations =
      .ok [⟨[("S", "T"), ("T", "double")]⟩, ⟨[("S", "float"), ("T", "double")]⟩] := rfl
  obtain ⟨⟨g, made, _⟩, steps⟩ :=
    signatures_in_step distinct instantiated List.mem_cons_self ⟨.empty⟩
  have declared : crossedFunction.cSignature ⟨[("S", "T"), ("T", "double")]⟩ ⟨.empty⟩ =
      "double const* find_T_f64(T const* values, size_t count, double const key)" := by decide
  have same := (steps g made).signature (by decide)
  rw [declared] at same
  exact ⟨distinct, instantiated, g, made, same, declared⟩

end TemplateExport
