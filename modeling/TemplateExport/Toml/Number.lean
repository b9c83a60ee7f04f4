import TemplateExport.Decimal.Nearest
import TemplateExport.Document.Basic
import TemplateExport.Json.Text

namespace TemplateExport.Toml

/-- Digits without the underscores between them. Every underscore stands between two digits. -/
def ungroup (isDigit : Char → Bool) : List Char → Option (List Char)
  | [] => none
  | [c] => if isDigit c then some [c] else none
  | c :: '_' :: rest => if isDigit c then (c :: ·) <$> ungroup isDigit rest else none
  | c :: rest => if isDigit c then (c :: ·) <$> ungroup isDigit rest else none

def digitsValue (base : Nat) (digits : List Char) : Nat :=
  digits.foldl (fun n c => n * base + (Json.hexDigit? c).getD 0) 0

def isHexDigit (c : Char) : Bool :=
  (Json.hexDigit? c).isSome

/-- Decimal digits that do not start with a needless zero. -/
def decimalDigits? (cs : List Char) : Option (List Char) :=
  match ungroup Char.isDigit cs with
  | some ('0' :: _ :: _) => none
  | digits? => digits?

def natural? (cs : List Char) : Option Nat :=
  (decimalDigits? cs).map (digitsValue 10)

def splitSign : List Char → Bool × List Char
  | '+' :: rest => (false, rest)
  | '-' :: rest => (true, rest)
  | cs => (false, cs)

/-- Whole numbers have 128 bits at most. -/
def integerDocument (n : Int) : Document :=
  if -0x80000000000000000000000000000000 ≤ n ∧ n < 0x100000000000000000000000000000000 then
    .scalar (.integer n) .start
  else .tooLarge .integer

/-- A number behind the mark of its base. Without digits it counts as beyond every range. -/
def basedInteger? (base : Nat) (isDigit : Char → Bool) (cs : List Char) : Option Document :=
  if cs.isEmpty then some (.tooLarge .integer)
  else (ungroup isDigit cs).map fun digits => integerDocument (digitsValue base digits)

def marksStand (isDigit : Char → Bool) : List Char → Bool
  | a :: '_' :: b :: rest => isDigit a && isDigit b && marksStand isDigit (b :: rest)
  | [_, '_'] => false
  | c :: rest => c != '_' && marksStand isDigit rest
  | [] => true

/-- Whether a word has the form of a grouped whole number: its leading digits are followed by an
underscore, it has no point, exponent or space, and its underscores stand well. Whatever else it
holds, it is a whole number, if not one within a range. -/
def isGroupedWord (cs : List Char) : Bool :=
  cs.head?.any (fun c => c.isDigit && c != '0') &&
    (cs.dropWhile Char.isDigit).head? == some '_' &&
    cs.all (fun c => c != '.' && c != 'e' && c != 'E' && c != ' ') &&
    marksStand isHexDigit cs

/-- A decimal number with its sign. A grouped word without a value counts as beyond every range. -/
def decimalInteger? (cs : List Char) : Option Document :=
  let (negative, size) := splitSign cs
  match natural? size with
  | some n => some (integerDocument (if negative then -n else n))
  | none => if isGroupedWord size then some (.tooLarge .integer) else none

def integer? : List Char → Option Document
  | '0' :: 'x' :: rest => basedInteger? 16 isHexDigit rest
  | '0' :: 'o' :: rest => basedInteger? 8 (fun c => '0' ≤ c && c ≤ '7') rest
  | '0' :: 'b' :: rest => basedInteger? 2 (fun c => c == '0' || c == '1') rest
  | cs => decimalInteger? cs

def isGrouped (c : Char) : Bool :=
  c.isDigit || c == '_'

def fraction? : List Char → Option (List Char × List Char)
  | '.' :: rest => (ungroup Char.isDigit (rest.takeWhile isGrouped)).map (·, rest.dropWhile isGrouped)
  | cs => some ([], cs)

def exponent? : List Char → Option Int
  | [] => some 0
  | c :: rest =>
    if c == 'e' || c == 'E' then
      let (negative, digits) := splitSign rest
      (ungroup Char.isDigit digits).map fun ds =>
        let n : Int := digitsValue 10 ds
        if negative then -n else n
    else none

/-- A number with a point or an exponent, or one of the names of the special doubles. -/
def float? (cs : List Char) : Option Float := do
  let (negative, size) := splitSign cs
  if size = "inf".toList then return if negative then -(1.0 / 0.0) else 1.0 / 0.0
  if size = "nan".toList then return 0.0 / 0.0
  let whole ← decimalDigits? (size.takeWhile isGrouped)
  let (places, rest) ← fraction? (size.dropWhile isGrouped)
  if places.isEmpty && rest.isEmpty then none
  let exponent ← exponent? rest
  return Decimal.nearest negative (digitsValue 10 (whole ++ places)) (exponent - places.length)

/-- A number with a point must be within the range of the doubles. -/
def floatDocument (named : Bool) (x : Float) : Document :=
  if x.isInf && !named then .tooLarge .float else .scalar (.float x) .start

end TemplateExport.Toml
