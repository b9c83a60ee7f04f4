import TemplateExport.Decimal.Nearest
import TemplateExport.Document.Mismatch

namespace TemplateExport.Json

/-- A number as it is written. The digits are those of its parts; without a fraction and an
exponent it is a whole number. -/
structure Numeral where
  negative : Bool
  whole : List Char
  fraction : Option (List Char)
  exponent : Option (Bool × List Char)
deriving DecidableEq, Repr

/-- What a numeral that breaks off means to a reader that skips it and to one that reads it. -/
abbrev NumeralBreak := Break × Break

def scanDigits (cs : List Char) : Except NumeralBreak (List Char × List Char) :=
  match cs.takeWhile Char.isDigit with
  | [] => .error (.illFormed, if cs.isEmpty then .cutOff else .illFormed)
  | digits => .ok (digits, cs.dropWhile Char.isDigit)

/-- The digits before the point. A zero stands alone. -/
def scanWhole (cs : List Char) : Except NumeralBreak (List Char × List Char) :=
  match cs with
  | '0' :: c :: rest => if c.isDigit then .error (.illFormed, .illFormed) else .ok (['0'], c :: rest)
  | cs => scanDigits cs

def scanFraction (cs : List Char) :
    Except NumeralBreak (Option (List Char) × List Char) :=
  match cs with
  | '.' :: rest => do
    let (digits, rest) ← scanDigits rest
    return (some digits, rest)
  | cs => .ok (none, cs)

def scanExponent (cs : List Char) :
    Except NumeralBreak (Option (Bool × List Char) × List Char) :=
  let marked : Option (Bool × List Char) :=
    match cs with
    | 'e' :: '-' :: rest | 'E' :: '-' :: rest => some (true, rest)
    | 'e' :: '+' :: rest | 'E' :: '+' :: rest => some (false, rest)
    | 'e' :: rest | 'E' :: rest => some (false, rest)
    | _ => none
  match marked with
  | none => .ok (none, cs)
  | some (negative, rest) => do
    let (digits, rest) ← scanDigits rest
    return (some (negative, digits), rest)

def scanNumeral (cs : List Char) : Except NumeralBreak (Numeral × List Char) := do
  let (negative, unsigned) :=
    match cs with
    | '-' :: rest => (true, rest)
    | cs => (false, cs)
  let (whole, rest) ← scanWhole unsigned
  let (fraction, rest) ← scanFraction rest
  let (exponent, rest) ← scanExponent rest
  return ({ negative, whole, fraction, exponent }, rest)

def digitValue (c : Char) : Nat :=
  c.toNat - '0'.toNat

/-- Takes digits into a number as long as it stays below a limit. -/
def gatherBelow (limit : Nat) : Nat → List Char → Nat × List Char
  | n, [] => (n, [])
  | n, c :: rest =>
    if n * 10 + digitValue c < limit then gatherBelow limit (n * 10 + digitValue c) rest
    else (n, c :: rest)

def powerOfTen (n : Nat) : Float :=
  Decimal.nearest false 1 n

/-- A double times a power of ten, with one rounding per step. A result beyond every double is
refused. -/
def scaleFloat (x : Float) (exponent : Int) : Nat → Option Float
  | 0 => some 0
  | steps + 1 =>
    if exponent.natAbs ≤ 308 then
      if 0 ≤ exponent then
        let scaled := x * powerOfTen exponent.natAbs
        if scaled.isInf then none else some scaled
      else some (x / powerOfTen exponent.natAbs)
    else if x == 0 then some x
    else if 0 ≤ exponent then none
    else scaleFloat (x / powerOfTen 308) (exponent + 308) steps

/-- The number that an exponent stands for. Beyond 31 bits only its direction counts. -/
def exponentValue : Option (Bool × List Char) → Int
  | none => 0
  | some (negative, digits) =>
    let gathered := gatherBelow 0x80000000 0 digits
    let size : Int := if gathered.2.isEmpty then gathered.1 else 0x100000000
    if negative then -size else size

/-- A numeral as a double. The digits that fit into 64 bits count, and of the other ones before
the point only their number. -/
def Numeral.float? (n : Numeral) : Option Float :=
  let (whole, dropped) := gatherBelow 0x10000000000000000 0 n.whole
  let places := n.fraction.getD []
  let (significand, unused) := gatherBelow 0x10000000000000000 whole places
  let shift : Int := dropped.length - (places.length - unused.length : Nat)
  let magnitude :=
    scaleFloat (UInt64.ofNat significand).toFloat (shift + exponentValue n.exponent) 4
  if n.negative then magnitude.map (- ·) else magnitude

/-- The value of a numeral, if it is within the range of the doubles. Whole numbers of 64 bits
are kept as such; the negative zero is none of them. -/
def Numeral.value? (n : Numeral) : Option Scalar :=
  if n.fraction.isNone && n.exponent.isNone then
    let (size, rest) := gatherBelow 0x10000000000000000 0 n.whole
    if !rest.isEmpty then n.float?.map .float
    else if !n.negative then some (.integer size)
    else if 0 < size ∧ size ≤ 0x8000000000000000 then some (.integer (-size))
    else n.float?.map .float
  else n.float?.map .float

end TemplateExport.Json
