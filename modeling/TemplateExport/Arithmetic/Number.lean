import TemplateExport.Arithmetic.Integer

namespace TemplateExport

inductive NumberType where
  | integer (type : IntegerType)
  | single
  | double
deriving DecidableEq, Repr

def NumberType.Carrier : NumberType → Type
  | integer t => Integer t
  | single => Float32
  | double => Float

/-- The integer between zero and the number that is nearest to the number, at most the largest
64-bit one on each side; zero for what is not a number. -/
def truncated (x : Float) : Int :=
  if x < 0 then x.toInt64.toInt else x.toUInt64.toNat

def Integer.toDouble {t : IntegerType} (n : Integer t) : Float :=
  if n.value < 0 then (Int64.ofInt n.value).toFloat else (UInt64.ofNat n.value.toNat).toFloat

def Integer.toSingle {t : IntegerType} (n : Integer t) : Float32 :=
  if n.value < 0 then (Int64.ofInt n.value).toFloat32 else (UInt64.ofNat n.value.toNat).toFloat32

namespace NumberType

/-- Conversion: integers wrap, fractions are cut off and what is too large for an integer type
becomes its nearest end, and a floating point number is the nearest one. -/
def convert : (s t : NumberType) → s.Carrier → t.Carrier
  | integer _, integer t, n => Integer.convert t n
  | integer _, single, n => Integer.toSingle n
  | integer _, double, n => Integer.toDouble n
  | single, integer t, x => Integer.clamp t (truncated (Float32.toFloat x))
  | single, single, x => x
  | single, double, x => Float32.toFloat x
  | double, integer t, x => Integer.clamp t (truncated x)
  | double, single, x => Float.toFloat32 x
  | double, double, x => x

def sum : (t : NumberType) → t.Carrier → t.Carrier → t.Carrier
  | integer t => fun (a b : Integer t) => a + b
  | single => fun (a b : Float32) => a + b
  | double => fun (a b : Float) => a + b

/-- Converts the left number to the type of the right one and adds in that type. -/
def add {s t : NumberType} (left : s.Carrier) (right : t.Carrier) : t.Carrier :=
  t.sum (s.convert t left) right

def runningSums {s t : NumberType} (start : t.Carrier) : List s.Carrier → List t.Carrier
  | [] => []
  | left :: lefts => add left start :: runningSums (add left start) lefts

end NumberType

end TemplateExport
