import Mathlib.Data.List.DropRight
import TemplateExport.Proofs.FileTexts
import TemplateExport.Proofs.Symbols

namespace TemplateExport

namespace Config

theorem dropFinalBlanks_append (lines : List Line) :
    ∃ blanks, lines = dropFinalBlanks lines ++ blanks ∧ ∀ line ∈ blanks, line.text = "" := by
  refine ⟨(lines.reverse.takeWhile fun line => line.text.isEmpty).reverse, ?_, ?_⟩
  · rw [dropFinalBlanks, ← List.reverse_append, List.takeWhile_append_dropWhile,
      List.reverse_reverse]
  · intro line hl
    have := List.mem_takeWhile_imp (List.mem_reverse.mp hl)
    simpa using this

theorem dropFinalBlanks_concat_blank {lines : List Line} {last : Line} (h : last.text ≠ "") :
    dropFinalBlanks (lines ++ [last] ++ [.blank]) = lines ++ [last] := by
  have kept : dropFinalBlanks (lines ++ [last]) = lines ++ [last] :=
    List.rdropWhile_concat_neg _ _ _ (by simpa using h)
  exact (List.rdropWhile_concat_pos (fun line : Line => line.text.isEmpty) (lines ++ [last])
    .blank rfl).trans kept

end Config

/-- The blank line behind every function is all that is no declaration. -/
theorem Config.filter_declarationTexts (c : Config) :
    c.declarationTexts.filter (· ≠ "") = c.exports.map fun w =>
      c.linkageLabel ++ "_IMPORT " ++ w.signatureText c.suffixes ++ ";" := by
  rw [declarationTexts, exports, List.filter_flatMap, List.map_flatMap]
  refine List.flatMap_congr ?_
  intro f _
  have kept : (f.exports.map fun w =>
      c.linkageLabel ++ "_IMPORT " ++ w.signatureText c.suffixes ++ ";").filter (· ≠ "") =
        f.exports.map fun w => c.linkageLabel ++ "_IMPORT " ++ w.signatureText c.suffixes ++ ";" := by
    refine List.filter_eq_self.mpr ?_
    intro text mem
    obtain ⟨w, _, rfl⟩ := List.mem_map.mp mem
    simp
  rw [List.filter_append, kept]
  simp

/-- A line in which a dispatching template calls a wrapper. -/
def isCall (text : String) : Bool :=
  "        return ".toList.isPrefixOf text.toList

/-- A branch has one call in it. -/
theorem Wrapper.calls_branchTexts (m : SuffixMapping) (w : Wrapper) {keyword : String}
    (known : keyword ∈ ["if", "else if"]) : (w.branchTexts m keyword).filter isCall =
      ["        return " ++ w.name m ++ "(" ++ w.function.argumentsText ++ ");"] := by
  have asked : isCall ("    " ++ keyword ++ " constexpr (" ++ w.conditionText ++ ") \x7b") =
      false := by
    rcases List.mem_cons.mp known with rfl | known
    · simp [isCall, String.toList_append, List.isPrefixOf]
    · rw [List.mem_singleton.mp known]
      simp [isCall, String.toList_append, List.isPrefixOf]
  have called : isCall ("        return " ++ w.name m ++ "(" ++ w.function.argumentsText ++
      ");") = true := by
    simp [isCall, String.toList_append, List.isPrefixOf]
  have ended : isCall "    \x7d" = false := by decide
  simp [branchTexts, asked, called, ended]

namespace FunctionTemplate

theorem calls_chainTexts (m : SuffixMapping) (ws : List Wrapper) :
    (chainTexts m ws).filter isCall = ws.map fun w =>
      "        return " ++ w.name m ++ "(" ++ w.function.argumentsText ++ ");" := by
  cases ws with
  | nil => rfl
  | cons first rest =>
    have later : ∀ w ∈ rest, (w.branchTexts m "else if").filter isCall =
        ["        return " ++ w.name m ++ "(" ++ w.function.argumentsText ++ ");"] :=
      fun w _ => w.calls_branchTexts m (by simp)
    rw [chainTexts, List.filter_append, first.calls_branchTexts m (by simp), List.filter_flatMap,
      List.flatMap_congr later, ← List.map_eq_flatMap]
    rfl

/-- The lines of a dispatching template that call something are those of its branches. -/
theorem calls_dispatchTexts (m : SuffixMapping) (f : FunctionTemplate) :
    (f.dispatchTexts m).filter isCall = f.exports.map fun w =>
      "        return " ++ w.name m ++ "(" ++ w.function.argumentsText ++ ");" := by
  have head : isCall (f.templateText ++ " \x7b") = false := by
    simp [isCall, templateText, String.toList_append, List.isPrefixOf]
  have rejected : isCall ("        static_assert(!sizeof(" ++ (f.typeNames.head?).getD "" ++
      "*), \"Unsupported type for this function.\");") = false := by
    simp [isCall, String.toList_append, List.isPrefixOf]
  have plain : isCall "    else \x7b" = false ∧ isCall "    \x7d" = false ∧
      isCall "\x7d" = false := by decide
  rw [dispatchTexts, List.filter_append, List.filter_append, calls_chainTexts]
  simp [head, rejected, plain]

end FunctionTemplate

theorem Config.calls_of_dispatches (c : Config) :
    (c.functions.flatMap (·.dispatchTexts c.suffixes ++ [""])).filter isCall =
      c.exports.map fun w =>
        "        return " ++ w.name c.suffixes ++ "(" ++ w.function.argumentsText ++ ");" := by
  rw [exports, List.filter_flatMap, List.map_flatMap]
  refine List.flatMap_congr ?_
  intro f _
  rw [List.filter_append, FunctionTemplate.calls_dispatchTexts]
  simp [isCall]

/-- With a wrapper to define, the implementation ends in a definition, and the blank line behind
that is all that is dropped. -/
theorem Config.exists_definitions {c : Config} (h : c.exports ≠ []) :
    ∃ part, dropFinalBlanks c.definitionLines = c.implementationPreamble ++ part ∧
      (c.exports.map (·.definition c.suffixes)).flatMap (·.lines (exportMark c.linkageLabel)) =
        part ++ [.blank] := by
  obtain ⟨earlier, w, hw⟩ := List.eq_nil_or_concat c.exports |>.resolve_left h
  let mark := exportMark c.linkageLabel
  let d := w.definition c.suffixes
  let above := (earlier.map (·.definition c.suffixes)).flatMap (·.lines mark) ++
    [.code (mark ++ " " ++ d.signature.text ++ " \x7b"),
      .code (Line.indent ++ "return " ++ d.call ++ ";")]
  have definitions : (c.exports.map (·.definition c.suffixes)).flatMap (·.lines mark) =
      above ++ [.code "\x7d"] ++ [.blank] := by
    simp [hw, above, d, mark, WrapperDefinition.lines]
  have whole : c.definitionLines =
      c.implementationPreamble ++ above ++ [.code "\x7d"] ++ [.blank] := by
    rw [definitionLines, definitions]
    simp only [List.append_assoc]
  refine ⟨above ++ [.code "\x7d"], ?_, definitions⟩
  rw [whole, dropFinalBlanks_concat_blank (by simp [Line.text]), List.append_assoc]

theorem Config.definitionLines_ends_in_blank {c : Config} (h : c.exports ≠ []) :
    c.definitionLines = dropFinalBlanks c.definitionLines ++ [.blank] := by
  obtain ⟨part, kept, definitions⟩ := exists_definitions h
  rw [kept, definitionLines, definitions, List.append_assoc]

/-- The lines before the blank ones at the end are dropped, as texts. -/
theorem Config.exists_dropped_blanks (c : Config) :
    ∃ blanks, c.implementationPreamble.map (·.text) ++
        c.exports.flatMap (·.definitionTexts c.suffixes c.linkageLabel ++ [""]) =
      (dropFinalBlanks c.definitionLines).map (·.text) ++ blanks ∧
      (∀ line ∈ blanks, line = "") ∧ (c.exports ≠ [] → blanks = [""]) := by
  obtain ⟨blanks, split, blank⟩ := dropFinalBlanks_append c.definitionLines
  refine ⟨blanks.map (·.text), ?_, ?_, ?_⟩
  · rw [← c.texts_definitions, ← List.map_append, ← List.map_append, ← split]
    rfl
  · intro text mem
    obtain ⟨line, there, rfl⟩ := List.mem_map.mp mem
    exact blank line there
  · intro some
    have last := definitionLines_ends_in_blank some
    rw [← List.append_cancel_left (last.symm.trans split)]
    rfl

/-- The two files and the symbols are made of the same wrappers, each of them once. -/
structure EachWrapperOnce (c : Config) (s : Sources) : Prop where
  /-- The wrappers of a function are those of its instantiations, in their order. -/
  instantiated : ∀ f ∈ c.functions,
    f.instantiations = .ok (f.exports.map (·.instantiation)) ∧ ∀ w ∈ f.exports, w.function = f
  declared : ∃ declarations dispatch,
    c.importDeclarations = .ok declarations ∧ c.dispatchDefinitions = .ok dispatch ∧
    s.header = fileText (c.headerPreamble.map (·.text) ++ declarations.map (·.text) ++
      ["// C++ wrapper impl.", "#ifdef __cplusplus", "#include <type_traits>", ""] ++
      dispatch.map (·.text) ++
      ["#endif", "", "#endif // " ++ c.linkageLabel ++ "_EXPORTED_INTERFACE_H"]) ∧
    (declarations.map (·.text)).filter (· ≠ "") = c.exports.map (fun w =>
      c.linkageLabel ++ "_IMPORT " ++
        (w.function.returns.typeText (w.instantiation.resolve w.function.returns.type) ++ " " ++
          w.name c.suffixes ++
          parametersText w.function.parameters w.instantiation.resolve "void") ++ ";") ∧
    dispatch.map (·.text) = c.functions.flatMap (·.dispatchTexts c.suffixes ++ [""]) ∧
    (dispatch.map (·.text)).filter isCall = c.exports.map fun w =>
      "        return " ++ w.name c.suffixes ++ "(" ++ w.function.argumentsText ++ ");"
  defined : ∃ lines blanks,
    s.implementation = fileText lines ∧
    c.implementationPreamble.map (·.text) ++ (c.exports.flatMap fun w =>
      [c.linkageLabel ++ "_EXPORT " ++
          (w.function.returns.typeText (w.instantiation.resolve w.function.returns.type) ++ " " ++
            w.name c.suffixes ++
            parametersText w.function.parameters w.instantiation.resolve "void") ++ " \x7b",
        "    return " ++ w.function.name ++ "<" ++ ", ".intercalate w.instantiation.types ++
          ">(" ++ w.function.argumentsText ++ ");",
        "\x7d",
        ""]) = lines ++ blanks ∧
    (∀ line ∈ blanks, line = "") ∧ (c.exports ≠ [] → blanks = [""])
  named : s.symbols = c.exports.map (·.name c.suffixes)
  identifiers : ∀ symbol ∈ s.symbols, isIdentifier symbol = true
  distinct : s.symbols.Nodup

theorem Config.instantiations_of_even {c : Config} (even : c.unevenness? = none)
    {f : FunctionTemplate} (hf : f ∈ c.functions) :
    f.instantiations = .ok (f.exports.map (·.instantiation)) ∧
      ∀ w ∈ f.exports, w.function = f := by
  have paired : f.unevenness? = none := List.findSome?_eq_none_iff.mp even f hf
  refine ⟨by rw [f.instantiations_eq_exports, paired]; rfl, ?_⟩
  intro w hw
  exact FunctionTemplate.function_of_mem_exports hw

theorem render_emits_each_wrapper_once {c : Config} {s : Sources} (h : c.render = .ok s) :
    EachWrapperOnce c s := by
  obtain ⟨claimed, header, implementation⟩ := Config.render_eq_ok_iff.mp h
  obtain ⟨even, fresh, names⟩ := Config.exportedSymbols_eq_ok_iff.mp claimed
  have declarations := c.importDeclarations_eq
  have dispatch := c.dispatchDefinitions_eq
  rw [even] at declarations dispatch
  obtain ⟨blanks, split, blank, last⟩ := c.exists_dropped_blanks
  refine ⟨fun f hf => Config.instantiations_of_even even hf,
    ⟨_, _, declarations, dispatch, ?_, ?_, c.texts_dispatches, ?_⟩,
    ⟨_, blanks, implementation, split, blank, last⟩,
    names.symm, fresh.identifiers, fresh.nodup⟩
  · rw [header, c.headerText_eq_fileText, c.texts_declarations, c.texts_dispatches]
    rfl
  · rw [c.texts_declarations]
    exact c.filter_declarationTexts
  · rw [c.texts_dispatches]
    exact c.calls_of_dispatches

theorem sampleLibrary_emitted : ∃ s, sampleLibrary.render = .ok s ∧
    s.symbols.length = 6 ∧ EachWrapperOnce sampleLibrary s := by
  have rendered := sampleLibrary.render_eq
  rw [sampleLibrary_symbols] at rendered
  exact ⟨_, rendered, rfl, render_emits_each_wrapper_once rendered⟩

end TemplateExport
