import TemplateExport.FunctionTemplate
import TemplateExport.Problem

namespace TemplateExport

/-- One concrete type for every type parameter, in the order of the parameters. -/
structure Instantiation where
  bindings : List (String × String)
deriving DecidableEq, Repr, Inhabited

namespace Instantiation

def types (r : Instantiation) : List String :=
  r.bindings.map (·.2)

/-- The type bound to a parameter name. Any other type stands for itself. -/
def resolve (r : Instantiation) (type : String) : String :=
  (r.bindings.lookup type).getD type

def ofRow (parameters : List TypeParameter) (row : List String) : Instantiation :=
  ⟨(parameters.map (·.name)).zip row⟩

end Instantiation

/-- All choices of one type per parameter, those of the first parameter changing last. -/
def rowsOfAll : List TypeParameter → List (List String)
  | [] => [[]]
  | p :: rest =>
    let tails := rowsOfAll rest
    p.types.flatMap fun type => tails.map (type :: ·)

/-- The first `count` places of the type lists, place by place. -/
def rowsOfFixed (count : Nat) : List TypeParameter → List (List String)
  | [] => List.replicate count []
  | p :: rest => List.zipWith List.cons p.types (rowsOfFixed count rest)

/-- The instantiations of a list of parameters. Without parameters there are none; the places of
uneven lists cannot be paired. -/
def Combination.instantiations (c : Combination) (parameters : List TypeParameter) :
    Except Problem (List Instantiation) :=
  match parameters with
  | [] => .ok []
  | first :: _ =>
    let count := first.types.length
    match c with
    | .all => .ok ((rowsOfAll parameters).map (.ofRow parameters))
    | .fixed =>
      match parameters.find? fun p => p.types.length != count with
      | some p =>
        .error (.invalidValue "templates" p.name (.unevenLists count p.types.length))
      | none => .ok ((rowsOfFixed count parameters).map (.ofRow parameters))

def FunctionTemplate.instantiations (f : FunctionTemplate) :
    Except Problem (List Instantiation) :=
  f.combination.instantiations f.typeParameters

end TemplateExport
