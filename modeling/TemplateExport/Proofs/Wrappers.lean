import TemplateExport.Sources
import TemplateExport.Proofs.Rows

namespace TemplateExport

/-- A result that a problem may stand in the way of. -/
def unlessProblem {α : Type} (problem : Option Problem) (a : α) : Except Problem α :=
  match problem with
  | some p => .error p
  | none => .ok a

section

variable {α β : Type}

theorem unlessProblem_eq_ok_iff {u : Option Problem} {a b : α} :
    unlessProblem u a = .ok b ↔ u = none ∧ a = b := by
  cases u <;> simp [unlessProblem]

theorem unlessProblem_eq_error_iff {u : Option Problem} {a : α} {p : Problem} :
    unlessProblem u a = .error p ↔ u = some p := by
  cases u <;> simp [unlessProblem]

theorem unlessProblem_bind_pure (u : Option Problem) (a : α) (k : α → β) :
    (unlessProblem u a >>= fun x => pure (k x)) = unlessProblem u (k a) := by
  cases u <;> rfl

theorem map_unlessProblem (u : Option Problem) (a : α) (k : α → β) :
    k <$> unlessProblem u a = unlessProblem u (k a) := by
  cases u <;> rfl

/-- The first problem of a walk over a list is the one that it ends with. -/
theorem mapM_unlessProblem (u : α → Option Problem) (v : α → β) (xs : List α) :
    (xs.mapM fun x => unlessProblem (u x) (v x)) = unlessProblem (xs.findSome? u) (xs.map v) := by
  induction xs with
  | nil => rfl
  | cons x rest ih =>
    rw [List.mapM_cons, ih, List.findSome?_cons]
    cases u x with
    | some p => rfl
    | none => cases rest.findSome? u <;> rfl

end

/-- A function with one of its instantiations: what one wrapper is generated for. -/
structure Wrapper where
  function : FunctionTemplate
  instantiation : Instantiation

namespace Wrapper

variable (m : SuffixMapping) (w : Wrapper)

def signature : WrapperSignature :=
  w.function.wrapperSignature w.instantiation m

def name : String :=
  (w.signature m).name

def declaration (linkage : String) : Line :=
  .code (importMark linkage ++ " " ++ (w.signature m).text ++ ";")

def branch : Branch :=
  ⟨w.instantiation.bindings, w.name m, w.function.forwardedArguments⟩

def definition : WrapperDefinition :=
  ⟨w.signature m, w.function.name, w.instantiation.types, w.function.forwardedArguments⟩

end Wrapper

namespace FunctionTemplate

/-- The wrappers of a function, in the order of its instantiations. -/
def exports (f : FunctionTemplate) : List Wrapper :=
  f.rows.map fun row => ⟨f, .ofRow f.typeParameters row⟩

theorem function_of_mem_exports {f : FunctionTemplate} {w : Wrapper} (h : w ∈ f.exports) :
    w.function = f := by
  obtain ⟨row, _, rfl⟩ := List.mem_map.mp h
  rfl

/-- The text of a dispatching template with the given branches. -/
def dispatchText (f : FunctionTemplate) (branches : List Branch) : List Line :=
  .code (f.cppSignature ++ " \x7b") :: Branch.chain branches ++ f.rejection ++ [.code "\x7d"]

theorem instantiations_eq_exports (f : FunctionTemplate) :
    f.instantiations = unlessProblem f.unevenness? (f.exports.map (·.instantiation)) := by
  rw [instantiations_eq, exports, List.map_map]
  cases f.unevenness? <;> rfl

theorem importLines_eq (f : FunctionTemplate) (linkage : String) (m : SuffixMapping) :
    f.importLines linkage m =
      unlessProblem f.unevenness? (f.exports.map (·.declaration m linkage) ++ [.blank]) := by
  simp only [importLines, instantiations_eq_exports, unlessProblem_bind_pure, exports,
    List.map_map]
  rfl

theorem branches_eq (f : FunctionTemplate) (m : SuffixMapping) :
    f.branches m = unlessProblem f.unevenness? (f.exports.map (·.branch m)) := by
  simp only [branches, instantiations_eq_exports, unlessProblem_bind_pure, exports, List.map_map]
  rfl

theorem dispatchLines_eq (f : FunctionTemplate) (m : SuffixMapping) :
    f.dispatchLines m =
      unlessProblem f.unevenness? (f.dispatchText (f.exports.map (·.branch m))) := by
  simp only [dispatchLines, branches_eq, unlessProblem_bind_pure]
  rfl

theorem wrappers_eq (f : FunctionTemplate) (m : SuffixMapping) :
    f.wrappers m = unlessProblem f.unevenness? (f.exports.map (·.definition m)) := by
  simp only [wrappers, instantiations_eq_exports, unlessProblem_bind_pure, exports, List.map_map]
  rfl

end FunctionTemplate

theorem Branch.exists_of_mem_chain {branches : List Branch} {line : Line}
    (h : line ∈ chain branches) :
    ∃ keyword ∈ ["if", "else if"], ∃ b ∈ branches, line ∈ b.lines keyword := by
  cases branches with
  | nil => cases h
  | cons first rest =>
    rcases List.mem_append.mp h with here | there
    · exact ⟨"if", by simp, first, by simp, here⟩
    · obtain ⟨b, hb, here⟩ := List.mem_flatMap.mp there
      exact ⟨"else if", by simp, b, by simp [hb], here⟩

namespace Config

/-- All wrappers, function by function. -/
def exports (c : Config) : List Wrapper :=
  c.functions.flatMap (·.exports)

theorem function_mem_of_mem_exports {c : Config} {w : Wrapper} (h : w ∈ c.exports) :
    w.function ∈ c.functions := by
  obtain ⟨f, hf, hw⟩ := List.mem_flatMap.mp h
  exact FunctionTemplate.function_of_mem_exports hw ▸ hf

theorem mem_exports {c : Config} {f : FunctionTemplate} (h : f ∈ c.functions) {w : Wrapper}
    (hw : w ∈ f.exports) : w ∈ c.exports :=
  List.mem_flatMap.mpr ⟨f, h, hw⟩

/-- What the first function with uneven type lists is refused for. -/
def unevenness? (c : Config) : Option Problem :=
  c.functions.findSome? (·.unevenness?)

theorem unevenness?_eq_none_iff {c : Config} :
    c.unevenness? = none ↔ ∀ f ∈ c.functions, f.Even := by
  simp only [unevenness?, List.findSome?_eq_none_iff, FunctionTemplate.unevenness?_eq_none_iff]

theorem importDeclarations_eq (c : Config) :
    c.importDeclarations = unlessProblem c.unevenness? (c.functions.flatMap fun f =>
      f.exports.map (·.declaration c.suffixes c.linkageLabel) ++ [.blank]) := by
  simp only [importDeclarations, FunctionTemplate.importLines_eq, mapM_unlessProblem,
    unlessProblem_bind_pure, List.flatMap_def]
  rfl

theorem dispatchDefinitions_eq (c : Config) :
    c.dispatchDefinitions = unlessProblem c.unevenness? (c.functions.flatMap fun f =>
      f.dispatchText (f.exports.map (·.branch c.suffixes)) ++ [.blank]) := by
  simp only [dispatchDefinitions, FunctionTemplate.dispatchLines_eq, mapM_unlessProblem,
    unlessProblem_bind_pure, List.flatMap_map]
  rfl

theorem wrappers_eq (c : Config) :
    c.wrappers = unlessProblem c.unevenness? (c.exports.map (·.definition c.suffixes)) := by
  simp only [wrappers, FunctionTemplate.wrappers_eq, mapM_unlessProblem, unlessProblem_bind_pure,
    exports, List.flatMap_def, List.map_flatten, List.map_map]
  rfl

theorem headerLines_eq (c : Config) :
    c.headerLines = unlessProblem c.unevenness? (c.headerPreamble ++
      (c.functions.flatMap fun f =>
        f.exports.map (·.declaration c.suffixes c.linkageLabel) ++ [.blank]) ++
      c.headerDispatch (c.functions.flatMap fun f =>
        f.dispatchText (f.exports.map (·.branch c.suffixes)) ++ [.blank])) := by
  simp only [headerLines, importDeclarations_eq, dispatchDefinitions_eq]
  cases c.unevenness? <;> rfl

/-- The header that a configuration with even type lists is rendered to. -/
def headerText (c : Config) : String :=
  Line.join <| c.headerPreamble ++
    (c.functions.flatMap fun f =>
      f.exports.map (·.declaration c.suffixes c.linkageLabel) ++ [.blank]) ++
    c.headerDispatch (c.functions.flatMap fun f =>
      f.dispatchText (f.exports.map (·.branch c.suffixes)) ++ [.blank])

theorem header_eq (c : Config) : c.header = unlessProblem c.unevenness? c.headerText := by
  rw [header, headerLines_eq, map_unlessProblem]
  rfl

/-- The lines of the implementation file before the blank ones at its end are dropped. -/
def definitionLines (c : Config) : List Line :=
  c.implementationPreamble ++
    (c.exports.map (·.definition c.suffixes)).flatMap (·.lines (exportMark c.linkageLabel))

theorem implementationLines_eq (c : Config) :
    c.implementationLines = unlessProblem c.unevenness? (dropFinalBlanks c.definitionLines) := by
  simp only [implementationLines, wrappers_eq, unlessProblem_bind_pure]
  rfl

theorem implementation_eq (c : Config) :
    c.implementation =
      unlessProblem c.unevenness? (Line.join (dropFinalBlanks c.definitionLines)) := by
  rw [implementation, implementationLines_eq, map_unlessProblem]

end Config

end TemplateExport
