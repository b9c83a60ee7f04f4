import TemplateExport.Config.Basic

namespace TemplateExport

def Argument.spell (a : Argument) (type : String) : String :=
  type ++ (if a.isConst then " const" else "") ++ (if a.isPointer then "*" else "")

def Argument.declaration (a : Argument) (resolve : String → String) : String :=
  a.spell (resolve a.type) ++ " " ++ a.label

structure WrapperSignature where
  result : String
  name : String
  parameters : List String
deriving DecidableEq, Repr

/-- An empty parameter list is written `void`. -/
def WrapperSignature.text (s : WrapperSignature) : String :=
  s.result ++ " " ++ s.name ++ "(" ++
    (if s.parameters.isEmpty then "void" else ", ".intercalate s.parameters) ++ ")"

namespace FunctionTemplate

def templateHead (f : FunctionTemplate) : String :=
  "template <" ++ ", ".intercalate (f.typeNames.map ("typename " ++ ·)) ++ ">"

def parameterList (f : FunctionTemplate) (resolve : String → String) : List String :=
  f.parameters.map (·.declaration resolve)

/-- The declaration of the template itself. -/
def cppSignature (f : FunctionTemplate) : String :=
  f.templateHead ++ " " ++ f.returns.spell f.returns.type ++ " " ++ f.name ++ "(" ++
    ", ".intercalate (f.parameterList id) ++ ")"

/-- The declaration of the wrapper of one instantiation. -/
def wrapperSignature (f : FunctionTemplate) (r : Instantiation) (m : SuffixMapping) :
    WrapperSignature :=
  ⟨f.returns.spell (r.resolve f.returns.type), m.symbol f r, f.parameterList r.resolve⟩

def cSignature (f : FunctionTemplate) (r : Instantiation) (m : SuffixMapping) : String :=
  (f.wrapperSignature r m).text

def forwardedArguments (f : FunctionTemplate) : String :=
  ", ".intercalate (f.parameters.map (·.label))

end FunctionTemplate

end TemplateExport
