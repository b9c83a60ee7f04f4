namespace TemplateExport

inductive Width where
  | eight
  | sixteen
  | thirtyTwo
  | sixtyFour
deriving DecidableEq, Repr

def Width.bits : Width → Nat
  | .eight => 8
  | .sixteen => 16
  | .thirtyTwo => 32
  | .sixtyFour => 64

structure IntegerType where
  signed : Bool
  width : Width
deriving DecidableEq, Repr

namespace IntegerType

def modulus (t : IntegerType) : Nat :=
  1 <<< t.width.bits

def least (t : IntegerType) : Int :=
  if t.signed then -(t.modulus / 2 : Nat) else 0

def greatest (t : IntegerType) : Int :=
  (if t.signed then t.modulus / 2 else t.modulus : Nat) - 1

/-- The residue of an integer that lies in the range of the type. -/
def residue (t : IntegerType) (n : Int) : Int :=
  if t.signed then n.bmod t.modulus else n % t.modulus

theorem residue_mem (t : IntegerType) (n : Int) :
    t.least ≤ t.residue n ∧ t.residue n ≤ t.greatest := by
  have hpos : 0 < t.modulus := by
    rw [modulus, Nat.one_shiftLeft]
    exact Nat.two_pow_pos _
  have hlow := Int.le_bmod (x := n) hpos
  have hhigh := Int.bmod_lt (x := n) hpos
  have hnonneg := Int.emod_nonneg n (Int.ofNat_ne_zero.mpr (Nat.ne_of_gt hpos))
  have hlt := Int.emod_lt_of_pos n (Int.natCast_pos.mpr hpos)
  obtain ⟨signed, width⟩ := t
  cases signed <;> cases width <;>
    simp_all [least, greatest, residue, modulus, Width.bits] <;> omega

theorem least_le_greatest (t : IntegerType) : t.least ≤ t.greatest :=
  Int.le_trans (t.residue_mem 0).1 (t.residue_mem 0).2

end IntegerType

structure Integer (t : IntegerType) where
  value : Int
  least_le : t.least ≤ value
  le_greatest : value ≤ t.greatest
deriving DecidableEq

namespace Integer

variable {s t : IntegerType}

/-- The integer of the type that differs from the given one by a multiple of the modulus. -/
def wrap (t : IntegerType) (n : Int) : Integer t :=
  ⟨t.residue n, (t.residue_mem n).1, (t.residue_mem n).2⟩

/-- The integer of the type that is nearest to the given one. -/
def clamp (t : IntegerType) (n : Int) : Integer t where
  value := max t.least (min n t.greatest)
  least_le := by omega
  le_greatest := by have := t.least_le_greatest; omega

def convert (t : IntegerType) (n : Integer s) : Integer t :=
  wrap t n.value

instance : Add (Integer t) where
  add a b := wrap t (a.value + b.value)

end Integer

end TemplateExport
