import TemplateExport.Decimal.Nearest

namespace TemplateExport.Decimal

/-- The value `m * 2 ^ q` with the reals that are nearer to it than to any other double. -/
structure Binary where
  m : Nat
  q : Int
  /-- The double below stands half as far away as the one above. -/
  closeBelow : Bool

def Binary.ofBits (bits : Nat) : Binary :=
  let field : Nat := bits / 0x10000000000000 % 0x800
  let low : Nat := bits % 0x10000000000000
  if field = 0 then ⟨low, -1074, false⟩
  else ⟨low + 0x10000000000000, (field : Int) - 1075, low = 0 && 1 < field⟩

/-- Whether a fraction reads back as this double. -/
def Binary.contains (x : Binary) (f : Fraction) : Bool :=
  let low := Fraction.scaled (4 * x.m - if x.closeBelow then 1 else 2) 0 (x.q - 2)
  let high := Fraction.scaled (4 * x.m + 2) 0 (x.q - 2)
  if x.m % 2 = 0 then low.le f && f.le high else low.lt f && f.lt high

def leadingPower (f : Fraction) : Int :=
  let size (n : Nat) : Int := (Nat.toDigits 10 n).length
  let guess := size f.numerator - size f.denominator
  if Fraction.le (Fraction.scaled 1 guess 0) f then guess else guess - 1

/-- The neighbour of a double on the grid of multiples of `10 ^ power` that reads back as it; of
two such neighbours the nearer one. -/
def Binary.onGrid (x : Binary) (tie : Tie) (power : Int) : Option Nat :=
  let unit := Fraction.scaled 1 power 0
  let value := Fraction.scaled x.m 0 x.q
  let numerator := value.numerator * unit.denominator
  let denominator := value.denominator * unit.numerator
  let reads (n : Nat) : Bool := n != 0 && x.contains (Fraction.scaled n power 0)
  let near := tie.round numerator denominator
  let below := numerator / denominator
  let far := if near = below then below + 1 else below
  if reads near then some near else if reads far then some far else none

/-- The fewest digits, tried on finer and finer grids, and the power of ten of the last one. -/
def Binary.digitsFrom (x : Binary) (tie : Tie) (leading : Int) : Nat → Nat → Nat × Int
  | 0, _ => (x.m, x.q)
  | tries + 1, count =>
    let power := leading + 1 - count
    match x.onGrid tie power with
    | some digits => (digits, power)
    | none => x.digitsFrom tie leading tries (count + 1)

/-- The shortest decimal that reads back as a positive double: its digits and the power of ten of
the last digit. Seventeen digits always suffice. -/
def shortest (tie : Tie) (bits : Nat) : Nat × Int :=
  let x := Binary.ofBits bits
  x.digitsFrom tie (leadingPower (Fraction.scaled x.m 0 x.q)) 17 1

end TemplateExport.Decimal
