import TemplateExport.Config.Basic
import TemplateExport.Document.Basic

namespace TemplateExport

def Combination.name : Combination → String
  | .all => "all"
  | .fixed => "fixed"

def Combination.toTree (c : Combination) : Tree :=
  .text c.name

def TypeParameter.toTree (p : TypeParameter) : Tree :=
  .table [("name", .text p.name), ("types", .array (p.types.map .text))]

/-- The name is left out if there is none. -/
def Argument.toTree (a : Argument) : Tree :=
  .table <| (a.name.toList.map fun name => ("name", .text name)) ++
    [("type", .text a.type), ("const", .boolean a.isConst), ("pointer", .boolean a.isPointer)]

def FunctionTemplate.toTree (f : FunctionTemplate) : Tree :=
  .table [("name", .text f.name), ("templates", .array (f.typeParameters.map (·.toTree))),
    ("combination", f.combination.toTree), ("return", f.returns.toTree),
    ("parameters", .array (f.parameters.map (·.toTree)))]

def SuffixMapping.toTree (m : SuffixMapping) : Tree :=
  .table (m.overrides.entries.map fun (type, suffix) => (type, .text suffix))

def Config.toTree (c : Config) : Tree :=
  .table [("linkage-macro", (c.linkageName.map .text).getD .null),
    ("includes", .array (c.includes.map .text)), ("suffix-mapping", c.suffixes.toTree),
    ("functions", .array (c.functions.map (·.toTree)))]

end TemplateExport
