import Mathlib.Algebra.BigOperators.Group.List.Basic
import Mathlib.Data.Int.ModEq
import TemplateExport.Arithmetic.Number

namespace TemplateExport

namespace IntegerType

variable {t : IntegerType}

theorem modulus_eq (t : IntegerType) : t.modulus = 2 ^ t.width.bits :=
  Nat.one_shiftLeft _

theorem residue_modEq (t : IntegerType) (n : Int) : t.residue n ≡ n [ZMOD t.modulus] := by
  unfold residue
  split
  · exact Int.bmod_emod
  · exact Int.mod_modEq n t.modulus

/-- The range of a type has as many integers as its modulus says. -/
theorem greatest_eq (t : IntegerType) : t.greatest = t.least + t.modulus - 1 := by
  obtain ⟨signed, width⟩ := t
  cases signed <;> cases width <;> rfl

/-- The type to which narrower integers are promoted before they are added. -/
def promoted : IntegerType :=
  ⟨true, .thirtyTwo⟩

theorem narrow_range (narrow : t.width = .eight ∨ t.width = .sixteen) :
    promoted.least ≤ t.least + t.least ∧ t.greatest + t.greatest ≤ promoted.greatest ∧
      t.least ≤ 0 ∧ 0 ≤ t.greatest := by
  obtain ⟨signed, width⟩ := t
  rcases narrow with rfl | rfl <;> cases signed <;> decide

end IntegerType

namespace Integer

variable {s t : IntegerType}

/-- Two integers of a type that differ by a multiple of the modulus are one. -/
theorem eq_of_modEq {a b : Integer t} (h : a.value ≡ b.value [ZMOD t.modulus]) : a = b := by
  obtain ⟨a, low, high⟩ := a
  obtain ⟨b, low', high'⟩ := b
  have range := t.greatest_eq
  have same : b - a = 0 := Int.eq_zero_of_abs_lt_dvd h.dvd (by rw [abs_lt]; omega)
  obtain rfl : a = b := by omega
  rfl

theorem modEq_wrap (t : IntegerType) (n : Int) : (wrap t n).value ≡ n [ZMOD t.modulus] :=
  t.residue_modEq n

theorem value_wrap_of_mem {n : Int} (low : t.least ≤ n) (high : n ≤ t.greatest) :
    (wrap t n).value = n := by
  have same : wrap t n = ⟨n, low, high⟩ := eq_of_modEq (modEq_wrap t n)
  rw [same]

/-- The third integer is the sum of the others as it is found in the promoted type: both keep their
values there, their sum is in its range, and it is converted back. -/
structure PromotedSum (a b sum : Integer t) : Prop where
  first_kept : (a.convert .promoted).value = a.value
  second_kept : (b.convert .promoted).value = b.value
  in_range : IntegerType.promoted.least ≤ a.value + b.value ∧
    a.value + b.value ≤ IntegerType.promoted.greatest
  exact_sum : (a.convert .promoted + b.convert .promoted).value = a.value + b.value
  converted_back : sum = (a.convert .promoted + b.convert .promoted).convert t

theorem promotedSum_add (narrow : t.width = .eight ∨ t.width = .sixteen) (a b : Integer t) :
    PromotedSum a b (a + b) := by
  obtain ⟨sums_low, sums_high, low, high⟩ := IntegerType.narrow_range narrow
  have kept (n : Integer t) : (n.convert .promoted).value = n.value := by
    have := n.least_le
    have := n.le_greatest
    exact value_wrap_of_mem (by omega) (by omega)
  have in_range : IntegerType.promoted.least ≤ a.value + b.value ∧
      a.value + b.value ≤ IntegerType.promoted.greatest :=
    ⟨sums_low.trans (add_le_add a.least_le b.least_le),
      (add_le_add a.le_greatest b.le_greatest).trans sums_high⟩
  have exact_sum : (a.convert .promoted + b.convert .promoted).value = a.value + b.value := by
    change (wrap _ ((a.convert .promoted).value + (b.convert .promoted).value)).value = _
    rw [kept a, kept b]
    exact value_wrap_of_mem in_range.1 in_range.2
  refine ⟨kept a, kept b, in_range, exact_sum, ?_⟩
  rw [convert, exact_sum]
  rfl

/-- Converts the left integer to the type of the right one and adds in that type. -/
abbrev plus (left : Integer s) (right : Integer t) : Integer t :=
  NumberType.add (s := .integer s) (t := .integer t) left right

theorem modEq_plus (left : Integer s) (right : Integer t) :
    (left.plus right).value ≡ left.value + right.value [ZMOD t.modulus] :=
  (modEq_wrap t _).trans ((modEq_wrap t left.value).add_right right.value)

end Integer

namespace NumberType

variable {s t : NumberType}

/-- What adding one number after another comes to. -/
def total (start : t.Carrier) (lefts : List s.Carrier) : t.Carrier :=
  lefts.foldl (fun sum left => add left sum) start

/-- The running sums are the totals of the beginnings. -/
theorem getElem?_runningSums (start : t.Carrier) (lefts : List s.Carrier) {k : Nat}
    (hk : k < lefts.length) :
    (runningSums start lefts)[k]? = some (total start (lefts.take (k + 1))) := by
  induction lefts generalizing start k with
  | nil => simp at hk
  | cons left rest ih =>
    cases k with
    | zero => rfl
    | succ k => exact ih (add left start) (by simpa using hk)

end NumberType

/-- A way to add up numbers in groups, and groups of groups. -/
inductive Grouping (α : Type) where
  | single (a : α)
  | both (first second : Grouping α)

namespace Grouping

def toList {α : Type} : Grouping α → List α
  | single a => [a]
  | both first second => first.toList ++ second.toList

/-- The sum of a group in a type, to which each of its numbers is converted. -/
def total {s : NumberType} (t : NumberType) : Grouping s.Carrier → t.Carrier
  | single a => s.convert t a
  | both first second => NumberType.add (first.total t) (second.total t)

end Grouping

namespace Integer

variable {s t : IntegerType}

/-- What adding one integer after another comes to. -/
abbrev total (start : Integer t) (lefts : List (Integer s)) : Integer t :=
  NumberType.total (s := .integer s) (t := .integer t) start lefts

/-- One addition after another adds the sum of all integers, up to the modulus. -/
theorem modEq_total (start : Integer t) (lefts : List (Integer s)) :
    (start.total lefts).value ≡ start.value + (lefts.map Integer.value).sum [ZMOD t.modulus] := by
  induction lefts generalizing start with
  | nil =>
    rw [List.map_nil, List.sum_nil, Int.add_zero]
    exact Int.ModEq.refl _
  | cons left rest ih =>
    have step := (modEq_plus left start).add_right (rest.map Integer.value).sum
    calc (start.total (left :: rest)).value
        ≡ (left.plus start).value + (rest.map Integer.value).sum [ZMOD t.modulus] :=
          ih (left.plus start)
      _ ≡ left.value + start.value + (rest.map Integer.value).sum [ZMOD t.modulus] := step
      _ = start.value + ((left :: rest).map Integer.value).sum := by
          rw [List.map_cons, List.sum_cons]
          omega

theorem eq_total_iff {start n : Integer t} {lefts : List (Integer s)} :
    n = start.total lefts ↔
      n.value ≡ start.value + (lefts.map Integer.value).sum [ZMOD t.modulus] := by
  constructor
  · rintro rfl
    exact modEq_total start lefts
  · intro h
    exact eq_of_modEq (h.trans (modEq_total start lefts).symm)

/-- The sum of a group in a type. -/
abbrev groupTotal (t : IntegerType) (g : Grouping (Integer s)) : Integer t :=
  Grouping.total (s := .integer s) (.integer t) g

theorem modEq_groupTotal (t : IntegerType) (g : Grouping (Integer s)) :
    (groupTotal t g).value ≡ (g.toList.map Integer.value).sum [ZMOD t.modulus] := by
  induction g with
  | single a =>
    rw [Grouping.toList, List.map_singleton, List.sum_singleton]
    exact modEq_wrap t a.value
  | both first second ih_first ih_second =>
    rw [Grouping.toList, List.map_append, List.sum_append]
    exact (modEq_plus (groupTotal t first) (groupTotal t second)).trans (ih_first.add ih_second)

end Integer

open Integer in
/-- Adding integers one after another is addition modulo the number of values of their type. So
their order and their grouping do not count. In types of half the width of the promoted type or
less, each addition is the one of that type. -/
theorem integer_sums_are_modular (s t : IntegerType) (right : Integer t)
    (lefts : List (Integer s)) :
    (∀ n : Integer t, n = right.total lefts ↔
      n.value ≡ right.value + (lefts.map Integer.value).sum [ZMOD 2 ^ t.width.bits]) ∧
    (∀ k < lefts.length,
      (NumberType.runningSums (s := .integer s) (t := .integer t) right lefts)[k]? =
        some (right.total (lefts.take (k + 1)))) ∧
    (∀ others : List (Integer s), others.Perm lefts → right.total others = right.total lefts) ∧
    (∀ g : Grouping (Integer s), g.toList.Perm lefts →
      (groupTotal t g).plus right = right.total lefts) ∧
    (t.width = .eight ∨ t.width = .sixteen → ∀ (left : Integer s) (sum : Integer t),
      PromotedSum (left.convert t) sum (left.plus sum)) := by
  have modulus : (t.modulus : Int) = 2 ^ t.width.bits := by
    rw [t.modulus_eq]
    exact Int.natCast_pow 2 _
  refine ⟨?_, ?_, ?_, ?_, ?_⟩
  · intro n
    rw [← modulus]
    exact eq_total_iff
  · intro k hk
    exact NumberType.getElem?_runningSums (s := .integer s) (t := .integer t) right lefts hk
  · intro others same
    refine eq_total_iff.mpr ?_
    rw [← (same.map Integer.value).sum_eq]
    exact modEq_total right others
  · intro g same
    refine eq_total_iff.mpr ?_
    rw [← (same.map Integer.value).sum_eq, Int.add_comm]
    exact (modEq_plus (groupTotal t g) right).trans ((modEq_groupTotal t g).add_right right.value)
  · intro narrow left sum
    exact promotedSum_add narrow (left.convert t) sum

/-- An unsigned byte to which wider integers are added. -/
def sampleByte : Integer ⟨false, .eight⟩ :=
  .wrap _ 100

def sampleAddends : List (Integer ⟨true, .thirtyTwo⟩) :=
  [300, -1, 44].map (.wrap _)

def sampleGroups : Grouping (Integer ⟨true, .thirtyTwo⟩) :=
  .both (.single (.wrap _ 44)) (.both (.single (.wrap _ (-1))) (.single (.wrap _ 300)))

open Integer in
theorem sampleAddends_summed :
    sampleByte.total sampleAddends = ⟨187, by decide, by decide⟩ ∧
    (NumberType.runningSums (s := .integer _) (t := .integer _) sampleByte sampleAddends)[1]? =
      some (sampleByte.total (sampleAddends.take 2)) ∧
    sampleByte.total sampleAddends.reverse = sampleByte.total sampleAddends ∧
    (groupTotal ⟨false, .eight⟩ sampleGroups).plus sampleByte = sampleByte.total sampleAddends ∧
    PromotedSum ((wrap ⟨true, .thirtyTwo⟩ 300).convert ⟨false, .eight⟩) sampleByte
      ((wrap ⟨true, .thirtyTwo⟩ 300).plus sampleByte) := by
  obtain ⟨sums, running, ordered, grouped, promoted⟩ :=
    integer_sums_are_modular ⟨true, .thirtyTwo⟩ ⟨false, .eight⟩ sampleByte sampleAddends
  refine ⟨?_, running 1 (by decide), ordered _ (by decide), grouped _ (by decide), ?_⟩
  · exact ((sums ⟨187, by decide, by decide⟩).mpr (by decide)).symm
  · exact promoted (Or.inl rfl) _ _

end TemplateExport
