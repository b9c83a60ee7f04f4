import TemplateExport.Proofs.Wrappers

namespace TemplateExport

/-- A file with the given lines. -/
def fileText (lines : List String) : String :=
  "\n".intercalate lines ++ "\n"

theorem Line.join_eq (lines : List Line) : join lines = fileText (lines.map (·.text)) :=
  rfl

/-- A type as it is written for an argument. -/
def Argument.typeText (a : Argument) (type : String) : String :=
  match a.isConst, a.isPointer with
  | false, false => type
  | true, false => type ++ " const"
  | false, true => type ++ "*"
  | true, true => type ++ " const*"

theorem Argument.spell_eq_typeText (a : Argument) (type : String) :
    a.spell type = a.typeText type := by
  obtain ⟨_, _, isConst, isPointer⟩ := a
  cases isConst <;> cases isPointer <;> simp [spell, typeText, String.append_assoc]

/-- The names of the parameters, as they are passed on in a call. -/
def FunctionTemplate.argumentsText (f : FunctionTemplate) : String :=
  ", ".intercalate (f.parameters.map (·.label))

/-- Parameters in brackets. -/
def parametersText (parameters : List Argument) (resolve : String → String) (empty : String) :
    String :=
  match parameters with
  | [] => "(" ++ empty ++ ")"
  | _ => "(" ++ ", ".intercalate
      (parameters.map fun a => a.typeText (resolve a.type) ++ " " ++ a.label) ++ ")"

namespace Wrapper

variable (m : SuffixMapping) (w : Wrapper)

/-- What the dispatching template asks before it calls the wrapper. -/
def conditionText : String :=
  " && ".intercalate (w.instantiation.bindings.map fun (name, type) =>
    "std::is_same_v<" ++ type ++ ", " ++ name ++ ">")

def branchTexts (keyword : String) : List String :=
  ["    " ++ keyword ++ " constexpr (" ++ w.conditionText ++ ") \x7b",
    "        return " ++ w.name m ++ "(" ++ w.function.argumentsText ++ ");",
    "    \x7d"]

def signatureText : String :=
  w.function.returns.typeText (w.instantiation.resolve w.function.returns.type) ++ " " ++
    w.name m ++ parametersText w.function.parameters w.instantiation.resolve "void"

def definitionTexts (linkage : String) : List String :=
  [linkage ++ "_EXPORT " ++ w.signatureText m ++ " \x7b",
    "    return " ++ w.function.name ++ "<" ++ ", ".intercalate w.instantiation.types ++ ">(" ++
      w.function.argumentsText ++ ");",
    "\x7d"]

theorem texts_branch (keyword : String) :
    ((w.branch m).lines keyword).map (·.text) = w.branchTexts m keyword := by
  have indented : Line.indent ++ Line.indent ++ "return " = "        return " := by decide
  simp only [Branch.lines, List.map_cons, List.map_nil, Line.text, indented]
  rfl

theorem signature_text : (w.signature m).text = w.signatureText m := by
  have parameters : "(" ++ (if (w.signature m).parameters.isEmpty then "void"
      else ", ".intercalate (w.signature m).parameters) ++ ")" =
        parametersText w.function.parameters w.instantiation.resolve "void" := by
    simp only [signature, FunctionTemplate.wrapperSignature, FunctionTemplate.parameterList,
      Argument.declaration, Argument.spell_eq_typeText]
    cases w.function.parameters <;> rfl
  rw [signatureText, ← parameters, ← Argument.spell_eq_typeText]
  simp only [WrapperSignature.text, String.append_assoc]
  rfl

theorem text_declaration (linkage : String) :
    (w.declaration m linkage).text = linkage ++ "_IMPORT " ++ w.signatureText m ++ ";" := by
  have mark : importMark linkage ++ " " = linkage ++ "_IMPORT " := String.append_assoc
  rw [declaration, Line.text, mark, signature_text]

theorem texts_definition (linkage : String) :
    ((w.definition m).lines (exportMark linkage)).map (·.text) =
      w.definitionTexts m linkage ++ [""] := by
  have mark : exportMark linkage ++ " " = linkage ++ "_EXPORT " := String.append_assoc
  have call : Line.indent ++ "return " ++ (w.definition m).call ++ ";" =
      "    return " ++ w.function.name ++ "<" ++ ", ".intercalate w.instantiation.types ++ ">(" ++
        w.function.argumentsText ++ ");" := by
    have indented : Line.indent ++ "return " = "    return " := by decide
    have ended : ")" ++ ";" = ");" := by decide
    rw [indented, WrapperDefinition.call, ← ended]
    simp only [String.append_assoc]
    rfl
  have head : (w.definition m).signature.text = w.signatureText m := w.signature_text m
  simp only [WrapperDefinition.lines, List.map_cons, List.map_nil, Line.text, mark, call, head]
  rfl

end Wrapper

namespace FunctionTemplate

variable (m : SuffixMapping) (f : FunctionTemplate)

/-- The branches for the given wrappers. The first of them opens the chain. -/
def chainTexts : List Wrapper → List String
  | [] => []
  | first :: rest => first.branchTexts m "if" ++ rest.flatMap (·.branchTexts m "else if")

def templateText : String :=
  "template <" ++ ", ".intercalate (f.typeNames.map ("typename " ++ ·)) ++ "> " ++
    f.returns.typeText f.returns.type ++ " " ++ f.name ++ parametersText f.parameters id ""

/-- The definition of the dispatching template. -/
def dispatchTexts : List String :=
  [f.templateText ++ " \x7b"] ++ chainTexts m f.exports ++
    ["    else \x7b",
      "        static_assert(!sizeof(" ++ (f.typeNames.head?).getD "" ++
        "*), \"Unsupported type for this function.\");",
      "    \x7d",
      "\x7d"]

theorem cppSignature_eq_templateText : f.cppSignature = f.templateText := by
  have parameters : "(" ++ ", ".intercalate (f.parameterList id) ++ ")" =
      parametersText f.parameters id "" := by
    simp only [parameterList, Argument.declaration, Argument.spell_eq_typeText]
    cases f.parameters <;> rfl
  have opened : ">" ++ " " = "> " := by decide
  rw [templateText, ← parameters, ← Argument.spell_eq_typeText, ← opened]
  simp only [cppSignature, templateHead, String.append_assoc]

theorem texts_chain (ws : List Wrapper) :
    (Branch.chain (ws.map (·.branch m))).map (·.text) = chainTexts m ws := by
  cases ws with
  | nil => rfl
  | cons first rest =>
    simp only [List.map_cons, Branch.chain, chainTexts, List.map_append, List.map_flatMap,
      List.flatMap_map, Wrapper.texts_branch]

theorem texts_rejection : f.rejection.map (·.text) =
    ["    else \x7b",
      "        static_assert(!sizeof(" ++ (f.typeNames.head?).getD "" ++
        "*), \"Unsupported type for this function.\");",
      "    \x7d"] := by
  have indented : Line.indent ++ Line.indent ++ "static_assert(!sizeof(" =
      "        static_assert(!sizeof(" := by decide
  simp only [rejection, List.map_cons, List.map_nil, Line.text, indented]
  rfl

theorem texts_dispatch :
    (f.dispatchText (f.exports.map (·.branch m))).map (·.text) = f.dispatchTexts m := by
  rw [dispatchText, List.cons_append, List.cons_append, List.map_cons, List.map_append,
    List.map_append, texts_chain, texts_rejection, Line.text, cppSignature_eq_templateText,
    dispatchTexts, List.append_assoc]
  rfl

end FunctionTemplate

namespace Config

variable (c : Config)

def declarationTexts : List String :=
  c.functions.flatMap fun f =>
    f.exports.map (fun w => c.linkageLabel ++ "_IMPORT " ++ w.signatureText c.suffixes ++ ";") ++
      [""]

theorem texts_declarations : (c.functions.flatMap fun f =>
    f.exports.map (·.declaration c.suffixes c.linkageLabel) ++ [.blank]).map (·.text) =
      c.declarationTexts := by
  simp only [List.map_flatMap, List.map_append, List.map_map, Function.comp_def,
    Wrapper.text_declaration]
  rfl

theorem texts_dispatches : (c.functions.flatMap fun f =>
    f.dispatchText (f.exports.map (·.branch c.suffixes)) ++ [.blank]).map (·.text) =
      c.functions.flatMap (·.dispatchTexts c.suffixes ++ [""]) := by
  simp only [List.map_flatMap, List.map_append, FunctionTemplate.texts_dispatch]
  rfl

theorem texts_definitions : ((c.exports.map (·.definition c.suffixes)).flatMap
    (·.lines (exportMark c.linkageLabel))).map (·.text) =
      c.exports.flatMap (·.definitionTexts c.suffixes c.linkageLabel ++ [""]) := by
  simp only [List.map_flatMap, List.flatMap_map, Wrapper.texts_definition]

/-- The lines of the header of a configuration with even type lists. -/
def headerTexts : List String :=
  c.headerPreamble.map (·.text) ++ c.declarationTexts ++
    ["// C++ wrapper impl.", "#ifdef __cplusplus", "#include <type_traits>", ""] ++
    c.functions.flatMap (·.dispatchTexts c.suffixes ++ [""]) ++
    ["#endif", "", "#endif // " ++ c.linkageLabel ++ "_EXPORTED_INTERFACE_H"]

theorem headerText_eq_fileText : c.headerText = fileText c.headerTexts := by
  have ended : "#endif // " ++ includeGuard c.linkageLabel =
      "#endif // " ++ c.linkageLabel ++ "_EXPORTED_INTERFACE_H" := String.append_assoc.symm
  rw [headerText, Line.join_eq, headerDispatch, List.map_append, List.map_append,
    texts_declarations, List.map_append, List.map_append, texts_dispatches, headerTexts, ← ended]
  simp only [List.append_assoc]
  rfl

end Config

end TemplateExport
