import TemplateExport.Header
import TemplateExport.Linkage
import TemplateExport.Signature
import TemplateExport.Config.Basic

namespace TemplateExport

def exportMarkLines (linkage : String) : List Line :=
  let exported := exportMark linkage
  [.ifDefined "_WIN32",
    .define exported (some "extern \"C\" __declspec(dllexport)"),
    .otherwise,
    .define exported (some "extern \"C\" __attribute__((visibility(\"default\")))"),
    .endIf none]

/-- The definition of a wrapper: its signature, and the instantiation that it calls. -/
structure WrapperDefinition where
  signature : WrapperSignature
  callee : String
  types : List String
  arguments : String
deriving DecidableEq, Repr

/-- The instantiation is named in full, so that nothing is left to deduction. -/
def WrapperDefinition.call (d : WrapperDefinition) : String :=
  d.callee ++ "<" ++ ", ".intercalate d.types ++ ">(" ++ d.arguments ++ ")"

def WrapperDefinition.lines (mark : String) (d : WrapperDefinition) : List Line :=
  [.code (mark ++ " " ++ d.signature.text ++ " \x7b"),
    .code (Line.indent ++ "return " ++ d.call ++ ";"),
    .code "\x7d",
    .blank]

def FunctionTemplate.wrappers (f : FunctionTemplate) (m : SuffixMapping) :
    Except Problem (List WrapperDefinition) := do
  let rows ← f.instantiations
  return rows.map fun r => ⟨f.wrapperSignature r m, f.name, r.types, f.forwardedArguments⟩

namespace Config

def wrappers (c : Config) : Except Problem (List WrapperDefinition) := do
  let blocks ← c.functions.mapM fun f => f.wrappers c.suffixes
  return blocks.flatten

def dropFinalBlanks (lines : List Line) : List Line :=
  (lines.reverse.dropWhile fun line => line.text.isEmpty).reverse

/-- What stands above the definitions. -/
def implementationPreamble (c : Config) : List Line :=
  [.pragmaOnce, .blank] ++ c.includeBlock ++ exportMarkLines c.linkageLabel ++ [.blank] ++
    (c.functions.map fun f => .code (f.cppSignature ++ ";")) ++ [.blank]

/-- The lines of the file that defines the wrappers. -/
def implementationLines (c : Config) : Except Problem (List Line) := do
  let definitions ← c.wrappers
  return dropFinalBlanks <|
    c.implementationPreamble ++
      definitions.flatMap (WrapperDefinition.lines (exportMark c.linkageLabel))

def implementation (c : Config) : Except Problem String :=
  Line.join <$> c.implementationLines

end Config

/-- The two generated files and the names that they export. -/
structure Sources where
  header : String
  implementation : String
  symbols : List String
deriving DecidableEq, Repr

def Config.render (c : Config) : Except Problem Sources := do
  let symbols ← c.exportedSymbols
  let header ← c.header
  let implementation ← c.implementation
  return { header, implementation, symbols }

end TemplateExport
