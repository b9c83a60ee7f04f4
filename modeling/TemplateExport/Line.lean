namespace TemplateExport

inductive Line where
  | pragmaOnce
  | includes (operand : String)
  | ifDefined (name : String)
  | ifNotDefined (name : String)
  | otherwise
  | endIf (remark : Option String)
  | define (name : String) (body : Option String)
  | comment (text : String)
  | code (text : String)
  | blank
deriving DecidableEq, Repr, Inhabited

namespace Line

def text : Line → String
  | pragmaOnce => "#pragma once"
  | includes operand => "#include " ++ operand
  | ifDefined name => "#ifdef " ++ name
  | ifNotDefined name => "#ifndef " ++ name
  | otherwise => "#else"
  | endIf none => "#endif"
  | endIf (some remark) => "#endif // " ++ remark
  | define name none => "#define " ++ name
  | define name (some body) => "#define " ++ name ++ " " ++ body
  | comment remark => "// " ++ remark
  | code s => s
  | blank => ""

/-- A file of lines, each of them ended. -/
def join (lines : List Line) : String :=
  "\n".intercalate (lines.map text) ++ "\n"

/-- The step by which nested code moves to the right. -/
def indent : String := "    "

end Line

end TemplateExport
