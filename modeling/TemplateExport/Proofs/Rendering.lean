import TemplateExport.Proofs.Acceptance
import TemplateExport.Proofs.Emission

namespace TemplateExport

/-- The files of an accepted configuration: the implementation ends in the definitions of all
wrappers, with blank lines between them. -/
theorem Config.Accepted.exists_files {c : Config} (accepted : c.Accepted) : ∃ implementation,
    c.render = .ok ⟨fileText c.headerTexts, fileText implementation,
      c.exports.map (·.name c.suffixes)⟩ ∧
    implementation ++ [""] = c.implementationPreamble.map (·.text) ++
      c.exports.flatMap (·.definitionTexts c.suffixes c.linkageLabel ++ [""]) := by
  obtain ⟨blanks, lines, -, last⟩ := c.exists_dropped_blanks
  refine ⟨(dropFinalBlanks c.definitionLines).map (·.text), ?_, ?_⟩
  · rw [accepted.render_eq, c.headerText_eq_fileText]
    rfl
  · rw [lines, last accepted.exports_ne_nil]

theorem FunctionTemplate.dispatchTexts_infix {c : Config} {f : FunctionTemplate}
    (hf : f ∈ c.functions) : f.dispatchTexts c.suffixes <:+: c.headerTexts := by
  have inside := List.infix_of_mem_flatten
    (List.mem_map_of_mem (f := (·.dispatchTexts c.suffixes ++ [""])) hf)
  rw [← List.flatMap_def] at inside
  rw [Config.headerTexts, List.append_assoc]
  exact (List.prefix_append _ _).isInfix.trans <| inside.trans <|
    (List.prefix_append _ _).isInfix.trans (List.suffix_append _ _).isInfix

/-- Each wrapper has a branch in the dispatching template. -/
theorem FunctionTemplate.exists_branchTexts {f : FunctionTemplate} {w : Wrapper} (h : w ∈ f.exports)
    (m : SuffixMapping) :
    ∃ keyword ∈ ["if", "else if"], w.branchTexts m keyword <:+: f.dispatchTexts m := by
  have inside {keyword : String} (here : w.branchTexts m keyword <:+: chainTexts m f.exports) :
      w.branchTexts m keyword <:+: f.dispatchTexts m :=
    here.trans ((List.suffix_append _ _).isInfix.trans (List.prefix_append _ _).isInfix)
  cases parts : f.exports with
  | nil =>
    rw [parts] at h
    cases h
  | cons first rest =>
    rw [parts] at h inside
    rcases List.mem_cons.mp h with rfl | later
    · exact ⟨"if", by simp, inside (List.prefix_append _ _).isInfix⟩
    · refine ⟨"else if", by simp, inside ?_⟩
      have here := List.infix_of_mem_flatten
        (List.mem_map_of_mem (f := (·.branchTexts m "else if")) later)
      exact here.trans (List.suffix_append _ _).isInfix

/-- Every definition stands in the implementation, line after line. -/
theorem Wrapper.definitionTexts_infix {c : Config} {above implementation : List String}
    (lines : implementation ++ [""] = above ++
      c.exports.flatMap (·.definitionTexts c.suffixes c.linkageLabel ++ [""]))
    {w : Wrapper} (hw : w ∈ c.exports) :
    w.definitionTexts c.suffixes c.linkageLabel <:+: implementation := by
  have inside := List.infix_of_mem_flatten
    (List.mem_map_of_mem (f := (·.definitionTexts c.suffixes c.linkageLabel ++ [""])) hw)
  rw [← List.flatMap_def] at inside
  have whole := inside.trans (List.suffix_append above _).isInfix
  rw [← lines, List.infix_concat_iff] at whole
  -- The blank line behind the definition may be the one that is dropped at the end.
  rcases whole with ended | within
  · rcases List.suffix_concat_iff.mp ended with none | ⟨part, same, behind⟩
    · simp at none
    · rw [List.append_cancel_right same]
      exact behind.isInfix
  · exact (List.prefix_append _ _).isInfix.trans within

/-- The symbols of one function: one for each choice of types, each called in a branch of its own,
the first of them in an `if` and the others behind it. -/
structure FunctionTemplate.Contributes (m : SuffixMapping) (header : List String)
    (f : FunctionTemplate) (block : List String) : Prop where
  all : f.combination = .all → block.length = (f.typeParameters.map (·.types.length)).prod
  fixed : f.combination = .fixed → ∀ p ∈ f.typeParameters, block.length = p.types.length
  called : ∃ first rest lines, f.exports = first :: rest ∧ block = f.exports.map (·.name m) ∧
    f.dispatchLines m = .ok lines ∧ lines.map (·.text) <:+: header ∧
    lines.map (·.text) =
      [f.templateText ++ " \x7b",
        "    if constexpr (" ++ first.conditionText ++ ") \x7b",
        "        return " ++ first.name m ++ "(" ++ f.argumentsText ++ ");",
        "    \x7d"] ++
      (rest.flatMap fun w =>
        ["    else if constexpr (" ++ w.conditionText ++ ") \x7b",
          "        return " ++ w.name m ++ "(" ++ f.argumentsText ++ ");",
          "    \x7d"]) ++
      ["    else \x7b",
        "        static_assert(!sizeof(" ++ (f.typeNames.head?).getD "" ++
          "*), \"Unsupported type for this function.\");",
        "    \x7d",
        "\x7d"]

theorem FunctionTemplate.Accepted.contributes {c : Config} {f : FunctionTemplate}
    (accepted : f.Accepted) (even : f.Even) (hf : f ∈ c.functions) :
    f.Contributes c.suffixes c.headerTexts (f.exports.map (·.name c.suffixes)) := by
  have paired := unevenness?_eq_none_iff.mpr even
  have length : (f.exports.map (·.name c.suffixes)).length = f.rows.length := by simp [exports]
  refine ⟨?_, ?_, ?_⟩
  · intro all
    rw [length, length_rows_of_all all accepted.templated]
  · intro fixed p hp
    rw [length, length_rows_of_fixed fixed even hp]
  · obtain ⟨first, rest, parts⟩ := List.exists_cons_of_ne_nil (accepted.exports_ne_nil even)
    have own : ∀ w ∈ first :: rest, w.function = f :=
      fun w mem => function_of_mem_exports (parts ▸ mem)
    refine ⟨first, rest, _, parts, rfl, by rw [f.dispatchLines_eq, paired]; rfl, ?_, ?_⟩
    · rw [f.texts_dispatch]
      exact dispatchTexts_infix hf
    · have later : ∀ w ∈ rest, w.branchTexts c.suffixes "else if" =
          ["    else if constexpr (" ++ w.conditionText ++ ") \x7b",
            "        return " ++ w.name c.suffixes ++ "(" ++ f.argumentsText ++ ");",
            "    \x7d"] := by
        intro w mem
        rw [Wrapper.branchTexts, own w (List.mem_cons_of_mem _ mem)]
        rfl
      rw [f.texts_dispatch, dispatchTexts, parts, chainTexts, List.flatMap_congr later,
        Wrapper.branchTexts, own first List.mem_cons_self]
      rfl

/-- The problem of the first function whose type lists cannot be combined. -/
def Config.FirstUneven (c : Config) (p : Problem) : Prop :=
  ∃ before f after, c.functions = before ++ f :: after ∧ (∀ g ∈ before, g.Even) ∧
    ¬f.Even ∧ f.instantiations = .error p

theorem Config.unevenness?_eq_some_iff {c : Config} {p : Problem} :
    c.unevenness? = some p ↔ c.FirstUneven p := by
  rw [unevenness?, List.findSome?_eq_some_iff]
  constructor
  · intro h
    obtain ⟨before, f, after, split, uneven, even⟩ := h
    refine ⟨before, f, after, split,
      fun g hg => FunctionTemplate.unevenness?_eq_none_iff.mp (even g hg), ?_, ?_⟩
    · intro paired
      rw [FunctionTemplate.unevenness?_eq_none_iff.mpr paired] at uneven
      cases uneven
    · rw [f.instantiations_eq, uneven]
  · intro h
    obtain ⟨before, f, after, split, even, _, failed⟩ := h
    refine ⟨before, f, after, split, ?_,
      fun g hg => FunctionTemplate.unevenness?_eq_none_iff.mpr (even g hg)⟩
    exact unlessProblem_eq_error_iff.mp (f.instantiations_eq_exports.symm.trans failed)

/-- A valid configuration is rendered, with a block of symbols for each function; rendering fails
just as claiming the symbols does; and the two files fail alike, on the first function with uneven
lists. -/
theorem rendering_stages_agree (c : Config) :
    (c.validate = .ok () → ∃ s header blocks, c.render = .ok s ∧ s.header = fileText header ∧
      s.symbols ≠ [] ∧ s.symbols = blocks.flatten ∧
      List.Forall₂ (FunctionTemplate.Contributes c.suffixes header) c.functions blocks) ∧
    ((∃ s, c.render = .ok s) ↔ ∃ symbols, c.exportedSymbols = .ok symbols) ∧
    (∀ p, c.render = .error p ↔ c.exportedSymbols = .error p) ∧
    ((∃ text, c.header = .ok text) ↔ ∀ f ∈ c.functions, f.Even) ∧
    ((∃ text, c.implementation = .ok text) ↔ ∀ f ∈ c.functions, f.Even) ∧
    (∀ p, c.header = .error p ↔ c.FirstUneven p) ∧
    ∀ p, c.implementation = .error p ↔ c.FirstUneven p := by
  refine ⟨?_, ?_, ?_, ?_, ?_, ?_, ?_⟩
  · intro valid
    have accepted := Config.validate_eq_ok_iff.mp valid
    obtain ⟨_, rendered, -⟩ := accepted.exists_files
    refine ⟨_, _, c.functions.map fun f => f.exports.map (·.name c.suffixes), rendered, rfl, ?_, ?_,
      ?_⟩
    · simpa using accepted.exports_ne_nil
    · rw [← List.flatMap_def, Config.exports, List.map_flatMap]
    · rw [List.forall₂_map_right_iff, List.forall₂_same]
      intro f hf
      exact (accepted.functions f hf).contributes (accepted.even f hf) hf
  · rw [c.render_eq]
    cases c.exportedSymbols <;> simp
  · intro p
    rw [c.render_eq]
    cases c.exportedSymbols <;> simp
  · simp [c.header_eq, unlessProblem_eq_ok_iff, Config.unevenness?_eq_none_iff]
  · simp [c.implementation_eq, unlessProblem_eq_ok_iff, Config.unevenness?_eq_none_iff]
  · intro p
    rw [c.header_eq, unlessProblem_eq_error_iff, Config.unevenness?_eq_some_iff]
  · intro p
    rw [c.implementation_eq, unlessProblem_eq_error_iff, Config.unevenness?_eq_some_iff]

theorem sampleLibrary_rendered : sampleLibrary.validate = .ok () ∧
    ∃ s header blocks, sampleLibrary.render = .ok s ∧ s.header = fileText header ∧
      s.symbols ≠ [] ∧ s.symbols = blocks.flatten ∧
      List.Forall₂ (FunctionTemplate.Contributes sampleLibrary.suffixes header)
        sampleLibrary.functions blocks :=
  ⟨sampleLibrary_validate, (rendering_stages_agree sampleLibrary).1 sampleLibrary_validate⟩

end TemplateExport
