import Mathlib.Data.List.Nodup
import TemplateExport.Proofs.Rendering

namespace TemplateExport

namespace FunctionTemplate

variable {f : FunctionTemplate}

/-- The parameters that hide a name from the bodies generated for a function. -/
def hiders (f : FunctionTemplate) (name : String) : List Argument :=
  f.parameters.filter (·.label = name)

theorem mem_hiders_iff {name : String} {a : Argument} :
    a ∈ f.hiders name ↔ a ∈ f.parameters ∧ a.label = name := by
  simp [hiders]

theorem hiders_eq_nil_iff {name : String} :
    f.hiders name = [] ↔ ∀ a ∈ f.parameters, a.label ≠ name := by
  simp [hiders, List.filter_eq_nil_iff]

/-- A parameter of an accepted function has a name, so its label is that name. -/
theorem Accepted.labels_nodup (accepted : f.Accepted) : (f.parameters.map (·.label)).Nodup := by
  have named : f.parameters.filterMap (·.name) = f.parameters.map (·.label) := by
    rw [← List.filterMap_eq_map]
    refine List.filterMap_congr ?_
    intro a ha
    obtain ⟨name, same, _⟩ := (accepted.parameters a ha).name
    simp [Argument.label, same]
  exact named ▸ accepted.names

theorem Accepted.length_hiders_le_one (accepted : f.Accepted) (name : String) :
    (f.hiders name).length ≤ 1 := by
  have alike : ∀ label ∈ (f.hiders name).map (·.label), label = name := by
    intro label hl
    obtain ⟨a, ha, rfl⟩ := List.mem_map.mp hl
    exact (mem_hiders_iff.mp ha).2
  have once : ((f.hiders name).map (·.label)).Nodup :=
    accepted.labels_nodup.sublist (List.filter_sublist.map _)
  rw [List.eq_replicate_of_mem alike, List.length_map, List.nodup_replicate] at once
  exact once

end FunctionTemplate

theorem FunctionTemplate.exports_infix {c : Config} {f : FunctionTemplate} (hf : f ∈ c.functions) :
    f.exports <:+: c.exports := by
  rw [Config.exports, List.flatMap_def]
  exact List.infix_of_mem_flatten (List.mem_map_of_mem hf)

/-- What the bodies generated for a function call, and when a parameter hides it from them: a
definition calls the template and a branch calls its wrapper, so a parameter with the name of the
template hides what every definition calls, and one with the name of a wrapper what its branch
calls. -/
structure FunctionTemplate.Calls (c : Config) (f : FunctionTemplate) (dispatch : List Line)
    (header implementation symbols : List String) : Prop where
  exported : f.exports ≠ [] ∧ f.exports.map (·.name c.suffixes) <:+: symbols
  defined : ∀ w ∈ f.exports,
    [c.linkageLabel ++ "_EXPORT " ++ w.signatureText c.suffixes ++ " \x7b",
      "    return " ++ f.name ++ "<" ++ ", ".intercalate w.instantiation.types ++ ">(" ++
        f.argumentsText ++ ");",
      "\x7d"] <:+: implementation
  /-- The calls of the dispatching template are those of its branches. -/
  dispatched : dispatch.map (·.text) <:+: header ∧
    (dispatch.map (·.text)).head? = some (f.templateText ++ " \x7b") ∧
    (∀ w ∈ f.exports, ∃ keyword ∈ ["if", "else if"],
      ["    " ++ keyword ++ " constexpr (" ++ w.conditionText ++ ") \x7b",
        "        return " ++ w.name c.suffixes ++ "(" ++ f.argumentsText ++ ");",
        "    \x7d"] <:+: dispatch.map (·.text)) ∧
    (dispatch.map (·.text)).filter isCall = f.exports.map fun w =>
      "        return " ++ w.name c.suffixes ++ "(" ++ f.argumentsText ++ ");"
  distinct : (f.exports.map (·.name c.suffixes)).Nodup
  /-- No two parameters hide one callee. -/
  alone : ∀ callee, (f.hiders callee).length ≤ 1
  /-- A parameter that hides what a branch calls hides nothing from any other body. -/
  once : ∀ w ∈ f.exports, ∀ a ∈ f.hiders (w.name c.suffixes),
    (∃ rest, a.label = f.name ++ "_" ++ rest) ∧ a ∉ f.hiders f.name ∧
      ∀ v ∈ f.exports, a ∈ f.hiders (v.name c.suffixes) → v = w
  unhidden : (∀ a ∈ f.parameters, a.label ≠ f.name ∧ ∀ rest, a.label ≠ f.name ++ "_" ++ rest) →
    f.hiders f.name = [] ∧ ∀ w ∈ f.exports, f.hiders (w.name c.suffixes) = []

namespace FunctionTemplate

variable {f : FunctionTemplate}

theorem name_of_mem_exports {m : SuffixMapping} {w : Wrapper} (h : w ∈ f.exports) :
    ∃ rest, w.name m = f.name ++ "_" ++ rest :=
  ⟨m.joined w.instantiation.types, function_of_mem_exports h ▸ rfl⟩

theorem extended_ne (name rest : String) : name ++ "_" ++ rest ≠ name := by
  intro same
  have length := congrArg String.length same
  simp only [String.length_append] at length
  have one : "_".length = 1 := rfl
  omega

/-- A parameter with the name of a wrapper has neither that of the template nor that of another
wrapper. -/
theorem hidden_once {m : SuffixMapping} (distinct : (f.exports.map (·.name m)).Nodup)
    {w : Wrapper} (hw : w ∈ f.exports) {a : Argument} (hides : a ∈ f.hiders (w.name m)) :
    (∃ rest, a.label = f.name ++ "_" ++ rest) ∧ a ∉ f.hiders f.name ∧
      ∀ v ∈ f.exports, a ∈ f.hiders (v.name m) → v = w := by
  obtain ⟨rest, named⟩ := name_of_mem_exports (m := m) hw
  have label : a.label = w.name m := (mem_hiders_iff.mp hides).2
  refine ⟨⟨rest, label.trans named⟩, ?_, ?_⟩
  · intro hidden
    have short : a.label = f.name := (mem_hiders_iff.mp hidden).2
    exact extended_ne f.name rest (named.symm.trans (label.symm.trans short))
  · intro v hv hidden
    have same : v.name m = w.name m := (mem_hiders_iff.mp hidden).2.symm.trans label
    exact List.inj_on_of_nodup_map distinct hv hw same

theorem unhidden {m : SuffixMapping}
    (apart : ∀ a ∈ f.parameters, a.label ≠ f.name ∧ ∀ rest, a.label ≠ f.name ++ "_" ++ rest) :
    f.hiders f.name = [] ∧ ∀ w ∈ f.exports, f.hiders (w.name m) = [] := by
  refine ⟨hiders_eq_nil_iff.mpr fun a ha => (apart a ha).1, ?_⟩
  intro w hw
  obtain ⟨rest, named⟩ := name_of_mem_exports (m := m) hw
  refine hiders_eq_nil_iff.mpr ?_
  intro a ha hidden
  exact (apart a ha).2 rest (hidden.trans named)

end FunctionTemplate

/-- In the bodies generated for a function of an accepted configuration a parameter hides the
callee only if it has the name of the template, or that and more behind an underscore. -/
theorem callees_hidden_by_name {c : Config} {f : FunctionTemplate} (valid : c.validate = .ok ())
    (hf : f ∈ c.functions) : ∃ s dispatch header implementation,
      c.render = .ok s ∧ c.exportedSymbols = .ok s.symbols ∧
      f.dispatchLines c.suffixes = .ok dispatch ∧
      s.header = fileText header ∧ s.implementation = fileText implementation ∧
      f.Calls c dispatch header implementation s.symbols := by
  have accepted := Config.validate_eq_ok_iff.mp valid
  have even := accepted.even f hf
  have paired := FunctionTemplate.unevenness?_eq_none_iff.mpr even
  obtain ⟨implementation, rendered, lines⟩ := accepted.exists_files
  have part := FunctionTemplate.exports_infix hf
  have distinct : (f.exports.map (·.name c.suffixes)).Nodup :=
    accepted.symbols.nodup.sublist (part.sublist.map _)
  have called {w : Wrapper} (hw : w ∈ f.exports) : w.function = f :=
    FunctionTemplate.function_of_mem_exports hw
  refine ⟨_, _, _, implementation, rendered, accepted.exportedSymbols_eq,
    by rw [f.dispatchLines_eq, paired]; rfl, rfl, rfl, ?_⟩
  refine ⟨⟨(accepted.functions f hf).exports_ne_nil even, part.map _⟩, ?_, ?_, distinct,
    (accepted.functions f hf).length_hiders_le_one,
    fun w hw a hides => FunctionTemplate.hidden_once distinct hw hides,
    FunctionTemplate.unhidden⟩
  · intro w hw
    have definition := Wrapper.definitionTexts_infix lines (part.subset hw)
    rwa [Wrapper.definitionTexts, called hw] at definition
  · rw [f.texts_dispatch]
    refine ⟨FunctionTemplate.dispatchTexts_infix hf, rfl, ?_, ?_⟩
    · intro w hw
      have branch := FunctionTemplate.exists_branchTexts hw c.suffixes
      simpa only [Wrapper.branchTexts, called hw] using branch
    · rw [f.calls_dispatchTexts]
      exact List.map_congr_left fun w hw => by rw [called hw]

/-- A sum whose parameters have the name of the template and the name of its wrapper. -/
def hidingLibrary : Config where
  linkageName := some "MATH"
  includes := []
  suffixes := ⟨.empty⟩
  functions :=
    [{ name := "add"
       typeParameters := [⟨"T", ["float", "double"]⟩]
       combination := .all
       returns := ⟨none, "T", false, false⟩
       parameters := [⟨some "add", "T", false, false⟩, ⟨some "add_f32", "T", false, false⟩] }]

theorem hidingLibrary_validate : hidingLibrary.validate = .ok () :=
  rfl

theorem hidingLibrary_calls : hidingLibrary.validate = .ok () ∧
    hidingLibrary.functions[0] ∈ hidingLibrary.functions ∧
    ∃ s dispatch header implementation, hidingLibrary.render = .ok s ∧
      hidingLibrary.functions[0].dispatchLines hidingLibrary.suffixes = .ok dispatch ∧
      s.header = fileText header ∧ s.implementation = fileText implementation ∧
      hidingLibrary.functions[0].Calls hidingLibrary dispatch header implementation s.symbols := by
  have member : hidingLibrary.functions[0] ∈ hidingLibrary.functions := List.getElem_mem _
  obtain ⟨s, dispatch, header, implementation, rendered, -, dispatched, headed, implemented,
    calls⟩ := callees_hidden_by_name hidingLibrary_validate member
  exact ⟨hidingLibrary_validate, member, s, dispatch, header, implementation, rendered, dispatched,
    headed, implemented, calls⟩

/-- Both bodies generated for the first wrapper call a parameter of their own. -/
theorem parameters_hide_callees : hidingLibrary.validate = .ok () ∧
    ∃ s header implementation, hidingLibrary.render = .ok s ∧
      s.symbols = ["add_f32", "add_f64"] ∧
      s.header = fileText header ∧ s.implementation = fileText implementation ∧
      ["template <typename T> T add(T add, T add_f32) \x7b",
        "    if constexpr (std::is_same_v<float, T>) \x7b",
        "        return add_f32(add, add_f32);",
        "    \x7d"] <:+: header ∧
      ["MATH_EXPORT float add_f32(float add, float add_f32) \x7b",
        "    return add<float>(add, add_f32);",
        "\x7d"] <:+: implementation := by
  obtain ⟨implementation, rendered, lines⟩ :=
    (Config.validate_eq_ok_iff.mp hidingLibrary_validate).exists_files
  have member : hidingLibrary.functions[0] ∈ hidingLibrary.functions := List.getElem_mem _
  have dispatch := FunctionTemplate.dispatchTexts_infix member
  have wrapped : ⟨hidingLibrary.functions[0], ⟨[("T", "float")]⟩⟩ ∈ hidingLibrary.exports :=
    List.Mem.head _
  have definition := Wrapper.definitionTexts_infix lines wrapped
  refine ⟨hidingLibrary_validate, _, _, implementation, rendered, rfl, rfl, rfl, ?_, definition⟩
  exact List.IsInfix.trans (by decide) dispatch

end TemplateExport
