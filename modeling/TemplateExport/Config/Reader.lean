import TemplateExport.Config.Basic
import TemplateExport.Document.Record

namespace TemplateExport

def Combination.named (name : String) (position : Position) : Reading Combination :=
  if name = "all" then .ok .all
  else if name = "fixed" then .ok .fixed
  else .error (.mismatch (.unknownVariant name) position)

/-- The value under a variant says nothing: it is a null. -/
def readNull : Document → Reading Unit
  | .scalar .null _ => .ok ()
  | other => .error (other.wrongType .unit)

def Scalar.kind : Scalar → String
  | .null => "null"
  | .boolean _ => "boolean"
  | .integer _ => NumberKind.integer.name
  | .float _ => NumberKind.float.name
  | .text _ => "string"

/-- The value under a variant says nothing: it is an empty table or an empty array. -/
def readHollow : Document → Reading Unit
  | .table _ [] _ | .array _ [] _ => .ok ()
  | .table .. => .error (.mismatch (.notEmpty "table") .start)
  | .array .. => .error (.mismatch (.notEmpty "array") .start)
  | .moment _ => .error (.mismatch (.notTable "datetime") .start)
  | .scalar value _ => .error (.mismatch (.notTable value.kind) .start)
  | .tooLarge kind => .error (.mismatch (.notTable kind.name) .start)
  | .refused _ _ how | .missing how => .error (.malformed how)

namespace Combination

/-- A variant is a text, or a table with one entry. A value that starts as neither is ill-formed,
however it goes on. -/
def readJson : Document → Reading Combination
  | .scalar (.text name) stop => named name stop
  | .table _ entries close =>
    match entries with
    | [] =>
      match close with
      | .ok _ => .error (.malformed .illFormed)
      | .error how => .error (.malformed how)
    | (key, value) :: rest => do
      let c ← match key with
        | .text name stop _ => named name stop
        | .refused _ how => .error (.malformed how)
      readNull value
      if rest.isEmpty then
        let _ ← closing close
        return c
      else .error (.malformed .illFormed)
  | .refused true _ how | .missing how => .error (.malformed how)
  | _ => .error (.malformed .illFormed)

def readToml : Document → Reading Combination
  | .scalar (.text name) stop => named name stop
  | .table _ [] _ => .error (.mismatch (.variantCount false) .start)
  | .table _ [(key, value)] _ => do
    let (name, stop, _) ← Document.readKey key
    let c ← named name stop
    readHollow value
    return c
  | .table .. => .error (.mismatch (.variantCount true) .start)
  | _ => .error (.mismatch .neitherTextNorTable .start)

def read (format : Format) : Document → Reading Combination :=
  match format with
  | .json => readJson
  | .toml => readToml

end Combination

namespace TypeParameter

structure Draft where
  name : Option String := none
  types : Option (List String) := none

def fields : List (Field Draft) :=
  [.of "name" (·.name) (fun v d => { d with name := some v }) Document.readText,
    .of "types" (·.types) (fun v d => { d with types := some v })
      (Document.readList Document.readText)]

def Draft.finish (ending : RecordEnd) (d : Draft) : Reading TypeParameter := do
  let name ← ending.require 0 "name" d.name
  let types ← ending.require 1 "types" d.types
  return { name, types }

def read (format : Format) : Document → Reading TypeParameter :=
  Document.readRecord format "Template" fields {} Draft.finish

end TypeParameter

namespace Argument

structure Draft where
  name : Option (Option String) := none
  type : Option String := none
  isConst : Option Bool := none
  isPointer : Option Bool := none

def fields : List (Field Draft) :=
  [.of "name" (·.name) (fun v d => { d with name := some v }) Document.readOptionalText,
    .of "type" (·.type) (fun v d => { d with type := some v }) Document.readText,
    .of "const" (·.isConst) (fun v d => { d with isConst := some v }) Document.readBoolean,
    .of "pointer" (·.isPointer) (fun v d => { d with isPointer := some v }) Document.readBoolean]

def Draft.finish (ending : RecordEnd) (d : Draft) : Reading Argument := do
  let type ← ending.require 1 "type" d.type
  return { name := d.name.getD none, type, isConst := d.isConst.getD false,
           isPointer := d.isPointer.getD false }

def read (format : Format) : Document → Reading Argument :=
  Document.readRecord format "Argument" fields {} Draft.finish

end Argument

namespace FunctionTemplate

structure Draft where
  name : Option String := none
  typeParameters : Option (List TypeParameter) := none
  combination : Option Combination := none
  returns : Option Argument := none
  parameters : Option (List Argument) := none

def fields (format : Format) : List (Field Draft) :=
  [.of "name" (·.name) (fun v d => { d with name := some v }) Document.readText,
    .of "templates" (·.typeParameters) (fun v d => { d with typeParameters := some v })
      (Document.readList (TypeParameter.read format)),
    .of "combination" (·.combination) (fun v d => { d with combination := some v })
      (Combination.read format),
    .of "return" (·.returns) (fun v d => { d with returns := some v }) (Argument.read format),
    .of "parameters" (·.parameters) (fun v d => { d with parameters := some v })
      (Document.readList (Argument.read format))]

def Draft.finish (ending : RecordEnd) (d : Draft) : Reading FunctionTemplate := do
  let name ← ending.require 0 "name" d.name
  let typeParameters ← ending.require 1 "templates" d.typeParameters
  let returns ← ending.require 3 "return" d.returns
  return { name, typeParameters, combination := d.combination.getD .all, returns,
           parameters := d.parameters.getD [] }

def read (format : Format) : Document → Reading FunctionTemplate :=
  Document.readRecord format "Function" (fields format) {} Draft.finish

end FunctionTemplate

namespace Config

structure Draft where
  linkageName : Option (Option String) := none
  includes : Option (List String) := none
  suffixes : Option TextTable := none
  functions : Option (List FunctionTemplate) := none

def fields (format : Format) : List (Field Draft) :=
  [.of "linkage-macro" (·.linkageName) (fun v d => { d with linkageName := some v })
      Document.readOptionalText,
    .of "includes" (·.includes) (fun v d => { d with includes := some v })
      (Document.readList Document.readText),
    .of "suffix-mapping" (·.suffixes) (fun v d => { d with suffixes := some v })
      (fun document => TextTable.ofList <$> document.readTexts),
    .of "functions" (·.functions) (fun v d => { d with functions := some v })
      (Document.readList (FunctionTemplate.read format))]

/-- A table may leave out every field; a sequence must give the first one. -/
def Draft.finish (ending : RecordEnd) (d : Draft) : Reading Config := do
  let linkageName ← match ending with
    | .table _ => pure (d.linkageName.getD none)
    | .sequence .. => ending.require 0 "linkage-macro" d.linkageName
  return { linkageName, includes := d.includes.getD [], suffixes := ⟨d.suffixes.getD .empty⟩,
           functions := d.functions.getD [] }

def read (format : Format) : Document → Reading Config :=
  Document.readRecord format "WrapperConfig" (fields format) {} Draft.finish

end Config

end TemplateExport
