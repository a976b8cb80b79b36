import Mathlib.Data.List.TakeWhile
import LiveTabs.Json.Number
/-!
Numbers in text. Whole numbers of 64 bits are read as they were written, and whatever is read as a
number has digits, signs, points and exponent marks alone.
-/
namespace LiveTabs

namespace Decimal

/-- There is no leading zero. -/
theorem head_digits {n : Nat} (positive : 0 < n) : (digits n).head? ≠ some '0' := by
  induction n using Nat.strongRecOn with
  | ind n ih =>
    rw [digits, Nat.toDigits_eq_if (by decide)]
    split
    · next small =>
      have apart : ∀ d < 10, 0 < d → Nat.digitChar d ≠ '0' := by decide
      simpa using apart n small positive
    · next large =>
      have earlier := ih (n / 10) (by omega) (by omega)
      rw [digits] at earlier
      cases found : Nat.toDigits 10 (n / 10) with
      | nil => exact absurd found Nat.toDigits_ne_nil
      | cons first rest =>
        rw [found] at earlier
        exact earlier

theorem takeWhile_digits (n : Nat) : (digits n).takeWhile Char.isDigit = digits n :=
  List.takeWhile_eq_self_iff.mpr (List.all_eq_true.mp (digits_all_digit n))

theorem dropWhile_digits (n : Nat) : (digits n).dropWhile Char.isDigit = [] :=
  List.dropWhile_eq_nil_iff.mpr (List.all_eq_true.mp (digits_all_digit n))

end Decimal

namespace Json

theorem isWhole_digits (n : Nat) : isWhole (Decimal.digits n) = true := by
  rcases Nat.eq_zero_or_pos n with rfl | positive
  · rfl
  · simp [isWhole, Decimal.digits_ne_nil n, Decimal.head_digits positive]

theorem readNumber?_natural (n : Nat) :
    readNumber? (Decimal.digits n) = readWhole false (Decimal.digits n) := by
  have unsigned : ((Decimal.digits n).head? == some '-') = false := by
    cases found : Decimal.digits n with
    | nil => exact absurd found (Decimal.digits_ne_nil n)
    | cons first rest =>
      have digit := List.all_eq_true.mp (Decimal.digits_all_digit n) first
        (by rw [found]; exact List.mem_cons_self)
      apply beq_eq_false_iff_ne.mpr
      intro same
      rw [List.head?_cons, Option.some.injEq] at same
      rw [same] at digit
      cases digit
  simp [readNumber?, unsigned, Decimal.takeWhile_digits, Decimal.dropWhile_digits, isWhole_digits]

theorem readNumber?_negative (n : Nat) :
    readNumber? ('-' :: Decimal.digits n) = readWhole true (Decimal.digits n) := by
  simp [readNumber?, Decimal.takeWhile_digits, Decimal.dropWhile_digits, isWhole_digits]

theorem readNumber?_ofInt {n : Int} (least : leastInt ≤ n) (greatest : n ≤ greatestInt) :
    readNumber? (Decimal.ofInt n) = some (.int n) := by
  unfold Decimal.ofInt
  split
  · next negative =>
    have same : -(n.natAbs : Int) = n := by omega
    rw [readNumber?_negative, readWhole, Decimal.value_digits, if_pos rfl, same,
      if_pos ⟨by omega, least⟩]
  · next natural =>
    have same : (n.natAbs : Int) = n := by omega
    rw [readNumber?_natural, readWhole, Decimal.value_digits, if_neg Bool.false_ne_true, same,
      if_pos greatest]

/-- The characters of numbers. -/
def InNumber (c : Char) : Prop := c.isDigit = true ∨ c ∈ ['-', '+', '.', 'e', 'E']

theorem readUnsigned?_inNumber {cs : List Char} {n : Nat}
    (reads : Decimal.readUnsigned? cs = some n) : ∀ c ∈ cs, InNumber c := by
  obtain ⟨digits, -⟩ := Option.ite_none_right_eq_some.mp reads
  rw [Decimal.isDigits, Bool.and_eq_true] at digits
  exact fun c member => .inl (List.all_eq_true.mp digits.2 c member)

theorem readSigned?_inNumber {cs : List Char} {n : Int}
    (reads : Decimal.readSigned? cs = some n) : ∀ c ∈ cs, InNumber c := by
  have unsigned {ds : List Char} {sign : Int → Int}
      (found : Option.map sign (Decimal.readUnsigned? ds) = some n) : ∀ c ∈ ds, InNumber c := by
    obtain ⟨_, lifted, -⟩ := Option.map_eq_some_iff.mp found
    obtain ⟨_, digits, -⟩ := Option.bind_eq_some_iff.mp lifted
    exact readUnsigned?_inNumber digits
  unfold Decimal.readSigned? at reads
  split at reads
  · exact List.forall_mem_cons.mpr ⟨.inr (by decide), unsigned reads⟩
  · exact List.forall_mem_cons.mpr ⟨.inr (by decide), unsigned reads⟩
  · exact unsigned reads

theorem readFraction_inNumber {negative : Bool} {whole fraction rest : List Char} {value : Json}
    (reads : readFraction negative whole fraction rest = some value) : ∀ c ∈ rest, InNumber c := by
  cases rest with
  | nil => nofun
  | cons mark power =>
    obtain ⟨exponent, signed, -⟩ := Option.bind_eq_some_iff.mp reads
    obtain ⟨marked, digits⟩ := Option.ite_none_right_eq_some.mp signed
    refine List.forall_mem_cons.mpr ⟨.inr ?_, readSigned?_inNumber digits⟩
    rw [Bool.or_eq_true, beq_iff_eq, beq_iff_eq] at marked
    rcases marked with rfl | rfl <;> decide

theorem takeWhile_inNumber (cs : List Char) : ∀ c ∈ cs.takeWhile Char.isDigit, InNumber c :=
  fun c member => .inl (List.all_eq_true.mp List.all_takeWhile c member)

/-- What is read as a number has the characters of numbers alone. -/
theorem readNumber?_inNumber {cs : List Char} {value : Json} (reads : readNumber? cs = some value) :
    cs ≠ [] ∧ ∀ c ∈ cs, InNumber c := by
  constructor
  · rintro rfl
    cases reads
  unfold readNumber? at reads
  dsimp only at reads
  have unsigned : ∀ c ∈ (if cs.head? == some '-' then cs.drop 1 else cs), InNumber c := by
    generalize (if cs.head? == some '-' then cs.drop 1 else cs) = text at reads ⊢
    generalize (cs.head? == some '-') = negative at reads
    obtain ⟨-, found⟩ := Option.ite_none_left_eq_some.mp reads
    rw [← List.takeWhile_append_dropWhile (p := Char.isDigit) (l := text)]
    refine List.forall_mem_append.mpr ⟨takeWhile_inNumber text, ?_⟩
    split at found
    · next none => simp [none]
    · next rest pointed =>
      rw [pointed]
      obtain ⟨-, fraction⟩ := Option.ite_none_left_eq_some.mp found
      rw [← List.takeWhile_append_dropWhile (p := Char.isDigit) (l := rest)]
      exact List.forall_mem_cons.mpr ⟨.inr (by decide), List.forall_mem_append.mpr
        ⟨takeWhile_inNumber rest, readFraction_inNumber fraction⟩⟩
    · exact readFraction_inNumber found
  cases cs with
  | nil => exact unsigned
  | cons c others =>
    by_cases minus : c = '-'
    · subst minus
      exact List.forall_mem_cons.mpr ⟨.inr (by decide), unsigned⟩
    · have plain : ((c :: others).head? == some '-') = false := by simpa using minus
      rw [plain] at unsigned
      exact unsigned

end Json
end LiveTabs
