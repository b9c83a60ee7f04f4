import TemplateExport.Decimal.Layout
import TemplateExport.Text.Characters

namespace TemplateExport

inductive Format where
  | json
  | toml
deriving DecidableEq, Repr

/-- A place in a text: its line, counted from 1, and the number of bytes of the line before it. -/
structure Position where
  line : Nat
  column : Nat
deriving DecidableEq, Repr

namespace Position

def start : Position := ⟨1, 0⟩

def next (p : Position) (c : Char) : Position :=
  if c = '\n' then ⟨p.line + 1, 0⟩ else ⟨p.line, p.column + c.utf8Size⟩

def after (p : Position) (cs : List Char) : Position :=
  cs.foldl next p

end Position

inductive Scalar where
  | null
  | boolean (value : Bool)
  | integer (value : Int)
  | float (value : Float)
  | text (value : String)

inductive Found where
  | scalar (value : Scalar)
  | sequence
  | map

inductive Wanted where
  | text
  | boolean
  | sequence
  | map
  | unit
  | record (name : String)
deriving DecidableEq, Repr

inductive NumberKind where
  | integer
  | float
deriving DecidableEq, Repr

def NumberKind.name : NumberKind → String
  | .integer => "integer"
  | .float => "float"

/-- Why a well-formed document is no configuration. -/
inductive Mismatch where
  | wrongType (found : Found) (wanted : Wanted)
  | missingField (key : String)
  | duplicateField (key : String)
  /-- A record written as a sequence ends before an element that it needs. -/
  | invalidLength (length : Nat) (record : String) (size : Nat)
  | unknownVariant (name : String)
  | neitherTextNorTable
  | variantCount (several : Bool)
  | notEmpty (kind : String)
  | notTable (found : String)
  | numberOutOfRange (kind : NumberKind)

def Scalar.description (format : Format) : Scalar → String
  | .null => "null"
  | .boolean b => "boolean `" ++ toString b ++ "`"
  | .integer i =>
    "integer `" ++ toString i ++ "`" ++
      if i < -0x8000000000000000 then " as i128"
      else if i < 0x10000000000000000 then ""
      else if i < 0x80000000000000000000000000000000 then " as i128"
      else " as u128"
  | .float x =>
    "floating point `" ++
      (match format with
        | .json => Decimal.Layout.compact
        | .toml => Decimal.Layout.plain).text x ++ "`"
  | .text s => "string " ++ quoted s

def Found.description (format : Format) : Found → String
  | .scalar value => value.description format
  | .sequence => "sequence"
  | .map => "map"

def Wanted.description : Wanted → String
  | .text => "a string"
  | .boolean => "a boolean"
  | .sequence => "a sequence"
  | .map => "a map"
  | .unit => "unit"
  | .record name => "struct " ++ name

def Mismatch.message (format : Format) : Mismatch → String
  | .wrongType found wanted =>
    "invalid type: " ++ found.description format ++ ", expected " ++ wanted.description
  | .missingField key => "missing field `" ++ key ++ "`"
  | .duplicateField key => "duplicate field `" ++ key ++ "`"
  | .invalidLength length record size =>
    "invalid length " ++ toString length ++ ", expected struct " ++ record ++ " with " ++
      toString size ++ " elements"
  | .unknownVariant name => "unknown variant `" ++ name ++ "`, expected `all` or `fixed`"
  | .neitherTextNorTable => "wanted string or table"
  | .variantCount several =>
    "wanted exactly 1 element, " ++ if several then "more than 1 element" else "found 0 elements"
  | .notEmpty kind => "expected empty " ++ kind
  | .notTable found => "expected table, found " ++ found
  | .numberOutOfRange .integer => "integer number overflowed"
  | .numberOutOfRange .float => "floating-point number overflowed"

/-- How a text fails to be a document: it ends too early, or something stands in a wrong place. -/
inductive Break where
  | cutOff
  | illFormed
deriving DecidableEq, Repr

/-- Why a text gives no value: it is no document, or the document has the wrong shape at a place. -/
inductive ReadProblem where
  | malformed (how : Break)
  | mismatch (reason : Mismatch) (position : Position)

end TemplateExport
