import Mathlib.Data.List.TakeWhile
import Mathlib.Data.Nat.Digits.Defs
import LiveTabs.Binary64.Reading
/-!
Decimal numerals and the whole numbers that they denote: digits by their places, with or without a
sign in front. Whole numbers are read as they are denoted, and so is the number from which a
floating-point one is rounded.
-/
namespace LiveTabs.Decimal

/-- One digit or more, and nothing else. Leading zeros are digits as well. -/
def Numeral (ds : List Char) : Prop := ds ≠ [] ∧ ∀ c ∈ ds, c.isDigit = true

/-- The last digit counts ones, the one before it tens, and so on. -/
def magnitude (ds : List Char) : Nat := Nat.ofDigits 10 (ds.reverse.map digitValue)

inductive Denotes : List Char → Int → Prop where
  | unsigned {ds : List Char} (numeral : Numeral ds) : Denotes ds (magnitude ds)
  | plus {ds : List Char} (numeral : Numeral ds) : Denotes ('+' :: ds) (magnitude ds)
  | minus {ds : List Char} (numeral : Numeral ds) : Denotes ('-' :: ds) (-(magnitude ds : Int))

theorem value_eq_magnitude (ds : List Char) : value ds = magnitude ds := by
  rw [magnitude, Nat.ofDigits_eq_foldr, List.foldr_map, List.foldr_reverse, value, valueFrom]
  congr 1
  funext start c
  exact Nat.add_comm _ _

theorem numeral_iff (ds : List Char) : Numeral ds ↔ isDigits ds = true := by
  simp [Numeral, isDigits]

theorem readUnsigned?_eq_some_iff (ds : List Char) (n : Nat) :
    readUnsigned? ds = some n ↔ Numeral ds ∧ n = magnitude ds := by
  rw [readUnsigned?, numeral_iff, value_eq_magnitude, Option.ite_none_right_eq_some,
    Option.some.injEq, @eq_comm _ n]

namespace Numeral
variable {ds : List Char} (numeral : Numeral ds)
include numeral

theorem readUnsigned? : readUnsigned? ds = some (magnitude ds) := by
  rw [Decimal.readUnsigned?, if_pos ((numeral_iff ds).mp numeral), value_eq_magnitude]

/-- A numeral does not begin with a sign, or with anything else that is no digit. -/
theorem head?_ne {c : Char} (other : c.isDigit = false) : ds.head? ≠ some c := by
  intro first
  have digit := numeral.2 c (List.mem_of_head? first)
  rw [other] at digit
  nomatch digit

theorem takeWhile_isDigit : ds.takeWhile Char.isDigit = ds :=
  List.takeWhile_eq_self_iff.mpr numeral.2

theorem dropWhile_isDigit : ds.dropWhile Char.isDigit = [] :=
  List.dropWhile_eq_nil_iff.mpr numeral.2

end Numeral

/-- What a numeral denotes is read. -/
theorem readSigned?_of_denotes {cs : List Char} {n : Int} (denotes : Denotes cs n) :
    readSigned? cs = some n := by
  cases denotes with
  | plus numeral => simp [readSigned?, numeral.readUnsigned?]
  | minus numeral => simp [readSigned?, numeral.readUnsigned?]
  | unsigned numeral =>
    have minus : cs.head? ≠ some '-' := numeral.head?_ne rfl
    have plus : cs.head? ≠ some '+' := numeral.head?_ne rfl
    unfold readSigned?
    split
    · exact absurd rfl minus
    · exact absurd rfl plus
    · simp [numeral.readUnsigned?]

end LiveTabs.Decimal

namespace LiveTabs.Binary64
open Decimal

theorem read?_signed {sign ds : List Char} (numeral : Numeral ds)
    (signed : sign = [] ∨ sign = ['+'] ∨ sign = ['-']) :
    read? (sign ++ ds) = ofDecimal (sign == ['-']) (magnitude ds) 0 := by
  have minus : (ds.head? == some '-') = false := beq_eq_false_iff_ne.mpr (numeral.head?_ne rfl)
  have plus : (ds.head? == some '+') = false := beq_eq_false_iff_ne.mpr (numeral.head?_ne rfl)
  rcases signed with rfl | rfl | rfl <;>
    simp [read?, minus, plus, numeral.takeWhile_isDigit, numeral.dropWhile_isDigit, numeral.1,
      valueFrom, value_eq_magnitude]

/-- A numeral is rounded from the number that it denotes. Of zero the sign would be lost. -/
theorem read?_of_denotes {cs : List Char} {n : Int} (denotes : Denotes cs n) (nonzero : n ≠ 0) :
    read? cs = ofDecimal (decide (n < 0)) n.natAbs 0 := by
  cases denotes with
  | unsigned numeral =>
    have natural : ¬ (magnitude cs : Int) < 0 := by omega
    simpa [natural] using read?_signed numeral (.inl rfl)
  | @plus ds numeral =>
    have natural : ¬ (magnitude ds : Int) < 0 := by omega
    simpa [natural] using read?_signed numeral (.inr (.inl rfl))
  | @minus ds numeral =>
    have negative : -(magnitude ds : Int) < 0 := by omega
    rw [decide_eq_true negative, Int.natAbs_neg, Int.natAbs_natCast]
    exact read?_signed numeral (.inr (.inr rfl))

end LiveTabs.Binary64
