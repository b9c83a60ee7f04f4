namespace TemplateExport

structure TypeParameter where
  name : String
  types : List String
deriving DecidableEq, Repr, Inhabited

/-- How the type lists of the parameters are combined: every choice with every other, or the
choices at equal places. -/
inductive Combination where
  | all
  | fixed
deriving DecidableEq, Repr, Inhabited

/-- A parameter of a function, or its return value. -/
structure Argument where
  name : Option String
  type : String
  isConst : Bool
  isPointer : Bool
deriving DecidableEq, Repr, Inhabited

/-- The name in a parameter list; an argument without a name has the empty one. -/
def Argument.label (a : Argument) : String :=
  a.name.getD ""

structure FunctionTemplate where
  name : String
  typeParameters : List TypeParameter
  combination : Combination
  returns : Argument
  parameters : List Argument
deriving DecidableEq, Repr, Inhabited

def FunctionTemplate.typeNames (f : FunctionTemplate) : List String :=
  f.typeParameters.map (·.name)

end TemplateExport
