import TemplateExport.Decimal.Shortest

namespace TemplateExport.Decimal

structure Layout where
  /-- The powers of ten of the leading digit for which no exponent is written. -/
  positional : Int → Bool
  /-- Which of two equally short and equally near decimals is taken. -/
  tie : Tie

/-- No exponents at all; a half goes up. -/
def Layout.plain : Layout := ⟨fun _ => true, .up⟩

/-- Exponents for numbers below 0.00001 and from 10000000000000000 on; a half goes to the even
neighbour. -/
def Layout.compact : Layout := ⟨fun leading => -5 ≤ leading && leading ≤ 15, .toEven⟩

def zeros (n : Nat) : String :=
  String.ofList (List.replicate n '0')

/-- The digits without the zeros at their end, and the power of ten of the last one left. -/
def dropZeros (digits : List Char) (power : Int) : List Char × Int :=
  let kept := (digits.reverse.dropWhile (· == '0')).reverse
  (kept, power + (digits.length - kept.length : Nat))

/-- Digits with a point in them, and at least one digit after the point. -/
def positionalText (digits : List Char) (power : Int) : String :=
  if 0 ≤ power then String.ofList digits ++ zeros power.toNat ++ ".0"
  else
    let places := (-power).toNat
    if places < digits.length then
      String.ofList (digits.take (digits.length - places)) ++ "." ++
        String.ofList (digits.drop (digits.length - places))
    else "0." ++ zeros (places - digits.length) ++ String.ofList digits

/-- One digit before the point, and the power of ten of that digit, which always has a sign. -/
def scientificText (digits : List Char) (leading : Int) : String :=
  let mantissa :=
    match digits with
    | [] => ""
    | [d] => String.singleton d
    | d :: rest => String.singleton d ++ "." ++ String.ofList rest
  mantissa ++ "e" ++ (if leading < 0 then "-" else "+") ++ toString leading.natAbs

/-- The text of a double: the fewest digits that read back as it. -/
def Layout.text (layout : Layout) (x : Float) : String :=
  let bits := x.toBits.toNat
  let magnitude := bits % 0x8000000000000000
  let sign := if 0x8000000000000000 ≤ bits then "-" else ""
  if 0x7FF0000000000000 < magnitude then "NaN"
  else if magnitude = 0x7FF0000000000000 then sign ++ "inf"
  else if magnitude = 0 then sign ++ "0.0"
  else
    let (number, lastPower) := shortest layout.tie magnitude
    let (digits, power) := dropZeros (Nat.toDigits 10 number) lastPower
    let leading := power + digits.length - 1
    sign ++ if layout.positional leading then positionalText digits power
      else scientificText digits leading

end TemplateExport.Decimal
