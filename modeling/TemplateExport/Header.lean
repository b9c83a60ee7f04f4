import TemplateExport.Linkage
import TemplateExport.Signature

namespace TemplateExport

def importMarkLines (linkage : String) : List Line :=
  let cLinkage := externMark linkage
  let imported := importMark linkage
  [.ifDefined "__cplusplus",
    .define cLinkage (some "extern \"C\""),
    .otherwise,
    .define cLinkage none,
    .endIf none,
    .blank,
    .ifDefined "_WIN32",
    .define imported (some (cLinkage ++ " __declspec(dllimport)")),
    .otherwise,
    .define imported (some cLinkage),
    .endIf none]

structure Branch where
  bindings : List (String × String)
  callee : String
  arguments : String
deriving DecidableEq, Repr

namespace Branch

def condition (b : Branch) : String :=
  " && ".intercalate (b.bindings.map fun (name, type) =>
    "std::is_same_v<" ++ type ++ ", " ++ name ++ ">")

def lines (keyword : String) (b : Branch) : List Line :=
  [.code (Line.indent ++ keyword ++ " constexpr (" ++ b.condition ++ ") \x7b"),
    .code (Line.indent ++ Line.indent ++ "return " ++ b.callee ++ "(" ++ b.arguments ++ ");"),
    .code (Line.indent ++ "\x7d")]

/-- The choices one after another, each tried if none before it fits. -/
def chain : List Branch → List Line
  | [] => []
  | first :: rest => first.lines "if" ++ rest.flatMap (lines "else if")

end Branch

namespace FunctionTemplate

def branches (f : FunctionTemplate) (m : SuffixMapping) : Except Problem (List Branch) := do
  let rows ← f.instantiations
  return rows.map fun r => ⟨r.bindings, m.symbol f r, f.forwardedArguments⟩

/-- What a dispatching template does with types that no branch is for. -/
def rejection (f : FunctionTemplate) : List Line :=
  let name := (f.typeNames.head?).getD ""
  [.code (Line.indent ++ "else \x7b"),
    .code (Line.indent ++ Line.indent ++ "static_assert(!sizeof(" ++ name ++
      "*), \"Unsupported type for this function.\");"),
    .code (Line.indent ++ "\x7d")]

/-- The template that passes each supported instantiation on to its wrapper. -/
def dispatchLines (f : FunctionTemplate) (m : SuffixMapping) : Except Problem (List Line) := do
  let branches ← f.branches m
  return .code (f.cppSignature ++ " \x7b") :: Branch.chain branches ++ f.rejection ++
    [.code "\x7d"]

def importLines (f : FunctionTemplate) (linkage : String) (m : SuffixMapping) :
    Except Problem (List Line) := do
  let rows ← f.instantiations
  return (rows.map fun r => .code (importMark linkage ++ " " ++ f.cSignature r m ++ ";")) ++
    [.blank]

end FunctionTemplate

namespace Config

def templateDeclarations (c : Config) : List Line :=
  c.functions.map fun f => .code (f.cppSignature ++ ";")

def importDeclarations (c : Config) : Except Problem (List Line) := do
  let blocks ← c.functions.mapM fun f => f.importLines c.linkageLabel c.suffixes
  return blocks.flatten

def dispatchDefinitions (c : Config) : Except Problem (List Line) := do
  let blocks ← c.functions.mapM fun f => f.dispatchLines c.suffixes
  return blocks.flatMap (· ++ [.blank])

/-- What stands above the declarations of the wrappers. -/
def headerPreamble (c : Config) : List Line :=
  let guard := includeGuard c.linkageLabel
  [.ifNotDefined guard, .define guard none, .blank] ++ c.includeBlock ++
    importMarkLines c.linkageLabel ++ [.blank] ++
    [.ifDefined "__cplusplus"] ++ c.templateDeclarations ++ [.endIf none, .blank]

def headerDispatch (c : Config) (dispatch : List Line) : List Line :=
  [.comment "C++ wrapper impl.", .ifDefined "__cplusplus", .includes "<type_traits>", .blank] ++
    dispatch ++ [.endIf none, .blank, .endIf (some (includeGuard c.linkageLabel))]

/-- The lines of the file that C and C++ callers include. -/
def headerLines (c : Config) : Except Problem (List Line) := do
  let imports ← c.importDeclarations
  let dispatch ← c.dispatchDefinitions
  return c.headerPreamble ++ imports ++ c.headerDispatch dispatch

def header (c : Config) : Except Problem String :=
  Line.join <$> c.headerLines

end Config

end TemplateExport
