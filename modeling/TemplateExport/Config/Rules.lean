import TemplateExport.Config.Basic
import TemplateExport.Text.Characters

namespace TemplateExport

/-- A value that can be checked: nothing, or the first objection. -/
abbrev Check := Except Problem Unit

def checkIdentifier (field value : String) : Check :=
  if value.isEmpty then .error (.invalidValue field value .emptyName)
  else if !isIdentifier value then .error (.invalidValue field value .notIdentifier)
  else if isReservedWord value then .error (.invalidValue field value .reservedWord)
  else .ok ()

def checkPath (field path : String) : Check :=
  if path.isEmpty then .error (.invalidValue field path .emptyPath)
  else if path.toList.contains '\x00' then .error (.invalidValue field path .nulInPath)
  else .ok ()

def checkNotEmpty {α : Type} (field : String) (values : List α) : Check :=
  if values.isEmpty then .error (.invalidValue field "[]" .emptyList) else .ok ()

def checkNotBlank (field value : String) : Check :=
  if isBlankText value then .error (.invalidValue field value .blankText) else .ok ()

def firstRepeated? : List String → List String → Option String
  | _, [] => none
  | seen, value :: rest =>
    if seen.contains value then some value else firstRepeated? (value :: seen) rest

def checkUnique (field : String) (values : List String) : Check :=
  match firstRepeated? [] values with
  | some value => .error (.invalidValue field value .repeatedName)
  | none => .ok ()

def checkEach {α : Type} (check : Nat → α → Check) (values : List α) : Check :=
  values.zipIdx.forM fun (value, i) => check i value

def place (field : String) (i : Nat) : String :=
  field ++ "[" ++ toString i ++ "]"

def TypeParameter.check (field : String) (p : TypeParameter) : Check := do
  checkIdentifier (field ++ ".name") p.name
  checkNotEmpty (field ++ ".types") p.types
  p.types.forM (checkNotBlank (field ++ ".types"))

/-- A parameter needs a name, and one that hides no type parameter. -/
def Argument.checkParameter (field : String) (typeNames : List String) (a : Argument) : Check := do
  checkNotBlank (field ++ ".type") a.type
  match a.name with
  | none => .error (.missingField (field ++ ".name"))
  | some name =>
    checkIdentifier (field ++ ".name") name
    if typeNames.contains name then
      .error (.invalidValue (field ++ ".name") name .shadowsTypeParameter)

def FunctionTemplate.check (field : String) (f : FunctionTemplate) : Check := do
  checkIdentifier (field ++ ".name") f.name
  checkNotEmpty (field ++ ".templates") f.typeParameters
  checkEach (fun i p => p.check (place (field ++ ".templates") i)) f.typeParameters
  checkUnique (field ++ ".templates") f.typeNames
  checkNotBlank (field ++ ".return.type") f.returns.type
  checkEach (fun i a => a.checkParameter (place (field ++ ".parameters") i) f.typeNames)
    f.parameters
  checkUnique (field ++ ".parameters") (f.parameters.map (·.label))

/-- Whether a text can be a part of every name. -/
def isSuffixText (s : String) : Bool :=
  !s.isEmpty && s.toList.all isNamePart

def checkSuffix (type suffix : String) : Check := do
  checkNotBlank "suffix-mapping" type
  if !isSuffixText suffix then
    .error (.invalidValue ("suffix-mapping." ++ type) suffix .suffixAlphabet)

/-- The rules for a configuration, in the order in which a breach is reported. The last one is
that every wrapper gets a name of its own. -/
def Config.validate (c : Config) : Check := do
  match c.linkageName with
  | none => .error (.missingField "linkage-macro")
  | some name => checkIdentifier "linkage-macro" name
  checkEach (fun i included => checkNotBlank (place "includes" i) included) c.includes
  c.suffixes.overrides.entries.forM fun (type, suffix) => checkSuffix type suffix
  checkNotEmpty "functions" c.functions
  checkEach (fun i f => f.check (place "functions" i)) c.functions
  let _ ← c.exportedSymbols

end TemplateExport
