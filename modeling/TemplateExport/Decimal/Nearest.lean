namespace TemplateExport.Decimal

/-- A positive fraction of two whole numbers. -/
structure Fraction where
  numerator : Nat
  denominator : Nat

namespace Fraction

/-- The number `n * 10 ^ tens * 2 ^ twos`. -/
def scaled (n : Nat) (tens twos : Int) : Fraction :=
  ⟨(n * Nat.pow 10 tens.toNat) <<< twos.toNat, Nat.pow 10 (-tens).toNat <<< (-twos).toNat⟩

def le (a b : Fraction) : Bool :=
  a.numerator * b.denominator ≤ b.numerator * a.denominator

def lt (a b : Fraction) : Bool :=
  a.numerator * b.denominator < b.numerator * a.denominator

end Fraction

def bitLength (n : Nat) : Nat :=
  if n = 0 then 0 else n.log2 + 1

/-- Which of two equally near whole numbers is taken. -/
inductive Tie where
  | toEven
  | up
deriving DecidableEq, Repr

def Tie.round (tie : Tie) (numerator denominator : Nat) : Nat :=
  let q := numerator / denominator
  let twice := 2 * (numerator % denominator)
  if twice < denominator then q
  else if denominator < twice then q + 1
  else match tie with
    | .toEven => q + q % 2
    | .up => q + 1

/-- The power of two that the last place of a double near a fraction stands for. The significand
gets 53 binary digits, or fewer below the normal range. -/
def lastPlace (x : Fraction) : Int :=
  let guess : Int := bitLength x.numerator - bitLength x.denominator
  let reached : Bool := Fraction.le (Fraction.scaled 1 0 guess) x
  max (-1074) ((if reached then guess + 1 else guess) - 53)

/-- The bits of the positive double next to a fraction, and of two the even one; beyond the
greatest double they are those of infinity. -/
def nearestBits (x : Fraction) : Nat :=
  let place := lastPlace x
  let m := Tie.toEven.round (x.numerator <<< (-place).toNat) (x.denominator <<< place.toNat)
  -- a significand of 2 ^ 53 carries into the exponent field by itself
  min 0x7FF0000000000000 (m + ((place + 1074).toNat) * 0x10000000000000)

def nearest (negative : Bool) (digits : Nat) (exponent : Int) : Float :=
  let size : Int := (Nat.toDigits 10 digits).length
  let bits :=
    if digits = 0 ∨ size + exponent < -400 then 0
    else if 400 < size + exponent then 0x7FF0000000000000
    else nearestBits (Fraction.scaled digits exponent 0)
  Float.ofBits (UInt64.ofNat (bits + if negative then 0x8000000000000000 else 0))

end TemplateExport.Decimal
