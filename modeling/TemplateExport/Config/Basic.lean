import TemplateExport.Identifier
import TemplateExport.Instantiation
import TemplateExport.TextTable

namespace TemplateExport

def builtInSuffixes : List (String × String) :=
  [("int8_t", "i8"), ("int16_t", "i16"), ("int32_t", "i32"), ("int64_t", "i64"),
    ("uint8_t", "ui8"), ("uint16_t", "ui16"), ("uint32_t", "ui32"), ("uint64_t", "ui64"),
    ("half", "f16"), ("float", "f32"), ("double", "f64")]

/-- Short names of types, from which the names of the wrappers are made. -/
structure SuffixMapping where
  overrides : TextTable
deriving DecidableEq, Inhabited

namespace SuffixMapping

/-- An override counts first, then the built-in name; any other type keeps its own spelling. -/
def suffix (m : SuffixMapping) (type : String) : String :=
  (m.overrides.get? type).getD ((builtInSuffixes.lookup type).getD type)

def joined (m : SuffixMapping) (types : List String) : String :=
  "_".intercalate (types.map m.suffix)

/-- The flat name of the wrapper of one instantiation. -/
def symbol (m : SuffixMapping) (f : FunctionTemplate) (r : Instantiation) : String :=
  f.name ++ "_" ++ m.joined r.types

end SuffixMapping

/-- The description of a library whose function templates are to be wrapped. -/
structure Config where
  /-- The name from which the names of the export and import marks are made. -/
  linkageName : Option String
  includes : List String
  suffixes : SuffixMapping
  functions : List FunctionTemplate
deriving DecidableEq, Inhabited

def Config.linkageLabel (c : Config) : String :=
  c.linkageName.getD ""

/-- Puts names behind the ones in use. Every name must be an identifier and new. -/
def claimNames : List String → List String → Except Problem (List String)
  | used, [] => .ok used
  | used, name :: rest =>
    if !isIdentifier name then .error (.symbol (.notIdentifier name))
    else if used.contains name then .error (.symbol (.repeated name))
    else claimNames (used ++ [name]) rest

def claimFunctions (m : SuffixMapping) :
    List String → List FunctionTemplate → Except Problem (List String)
  | used, [] => .ok used
  | used, f :: rest => do
    let rows ← f.instantiations
    let used ← claimNames used (rows.map (m.symbol f))
    claimFunctions m used rest

def Config.exportedSymbols (c : Config) : Except Problem (List String) :=
  claimFunctions c.suffixes [] c.functions

inductive FunctionEdit where
  | combine (combination : Combination)

/-- A change of a configuration. The functions are counted from 0; where there is none, nothing
changes. -/
inductive Edit where
  | mapSuffix (type suffix : String)
  | unmapSuffix (type : String)
  | editFunction (i : Nat) (edit : FunctionEdit)

def FunctionEdit.apply (f : FunctionTemplate) : FunctionEdit → FunctionTemplate
  | combine combination => { f with combination }

def Edit.apply (c : Config) : Edit → Config
  | mapSuffix type suffix => { c with suffixes := ⟨c.suffixes.overrides.insert type suffix⟩ }
  | unmapSuffix type => { c with suffixes := ⟨c.suffixes.overrides.erase type⟩ }
  | editFunction i edit =>
    { c with functions := c.functions.modify i fun f => edit.apply f }

end TemplateExport
