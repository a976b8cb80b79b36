import LiveTabs.Proofs.Numerals
import LiveTabs.Proofs.Rounding
import LiveTabs.StoreType.Coercion
/-!
What is read where a whole number is wanted. A JSON number is read if its value is a whole number in
range, and a numeral if it denotes one; in every other case the initial value is read. There is one
exception: a numeral that denotes a little less than the least number of 64 bits is read as that
number, the nearest floating-point one.
-/
namespace LiveTabs

/-- The whole number for which a stored number counts. A floating-point number counts for one of 64
bits with a sign alone. -/
def Json.CountsAs : Json → Int → Prop
  | .int n, z => n = z
  | .float x, z => x.exact = z ∧ IntKind.int64.least ≤ z ∧ z ≤ IntKind.int64.greatest
  | _, _ => False

def Json.IsNumber : Json → Prop
  | .int _ => True
  | .float _ => True
  | _ => False

namespace Ranged
variable {kind : IntKind}

theorem ofInt?_eq_some_iff {n : Int} (v : Ranged kind) : ofInt? kind n = some v ↔ v.val = n := by
  constructor
  · intro made
    obtain ⟨_, same⟩ := Option.dite_none_right_eq_some.mp made
    exact congrArg val (Option.some.inj same).symm
  · rintro rfl
    exact ofInt?_val v

/-- Every kind is within the whole numbers of JSON. -/
theorem inside (v : Ranged kind) : Json.leastInt ≤ v.val ∧ v.val ≤ Json.greatestInt := by
  have least := v.least_le
  have greatest := v.le_greatest
  cases kind <;> simp only [IntKind.least, IntKind.greatest] at least greatest <;>
    simp only [Json.leastInt, Json.greatestInt] <;> omega

end Ranged

namespace StoreType
variable {kind : IntKind}

theorem int_reads {n : Int} (v : Ranged kind) :
    [Json.int n].findSome? (decodeInt kind) = some v ↔ v.val = n := by
  rw [List.findSome?_singleton, decodeInt, Ranged.ofInt?_eq_some_iff]

theorem integralForm_reads (x : Binary64) (v : Ranged kind) :
    (integralForm x).findSome? (decodeInt kind) = some v ↔ (Json.float x).CountsAs v.val := by
  rw [Json.CountsAs, ← Binary64.toInt?_eq_some_iff, integralForm]
  cases x.toInt? with
  | none => simp
  | some n =>
    dsimp only
    split
    · next inside =>
      rw [int_reads]
      constructor
      · intro same
        rw [same]
        exact ⟨rfl, inside⟩
      · rintro ⟨same, -⟩
        exact (Option.some.inj same).symm
    · next outside =>
      constructor
      · intro read
        nomatch read
      · rintro ⟨same, bounds⟩
        obtain rfl := Option.some.inj same
        exact absurd bounds outside

/-- A stored number is read as the whole number for which it counts, and as no other. -/
theorem number_reads {stored : Json} (number : stored.IsNumber) (v : Ranged kind) :
    (stored :: otherForms stored).findSome? (decodeInt kind) = some v ↔ stored.CountsAs v.val := by
  cases stored with
  | int n =>
    have own : (Json.int n :: otherForms (.int n)).findSome? (decodeInt kind) =
        [Json.int n].findSome? (decodeInt kind) := by
      simp [otherForms, List.findSome?_cons, decodeInt]
    rw [own, int_reads]
    exact eq_comm
  | float x =>
    have own : (Json.float x :: otherForms (.float x)).findSome? (decodeInt kind) =
        (integralForm x).findSome? (decodeInt kind) := by
      simp [otherForms, List.findSome?_cons, List.findSome?_append, decodeInt]
    rw [own, integralForm_reads]
  | null => nomatch number
  | bool b => nomatch number
  | str s => nomatch number
  | arr items => nomatch number
  | obj members => nomatch number

/-- Where it is known what may be read at a type of whole numbers, it is read, and the initial value
if nothing may. -/
theorem coerce_of_reads {stored : Json} {Reads : Ranged kind → Prop}
    (reads : ∀ v, (stored :: otherForms stored).findSome? (decodeInt kind) = some v ↔ Reads v)
    (initial : Ranged kind) :
    (∀ v, Reads v → coerce (.int kind) stored initial = v) ∧
      ((∀ v, ¬ Reads v) → coerce (.int kind) stored initial = initial) := by
  constructor
  · intro v readable
    rw [coerce, decode, (reads v).mpr readable, Option.getD_some]
  · intro unreadable
    have nothing : (stored :: otherForms stored).findSome? (decodeInt kind) = none := by
      rw [Option.eq_none_iff_forall_ne_some]
      intro v read
      exact unreadable v ((reads v).mp read)
    rw [coerce, decode, nothing, Option.getD_none]

end StoreType

/-- A stored number is read at a type of whole numbers as the number that it is, where it is one and
in range, a floating-point number within 64 bits besides. Whatever else it is, the initial value is
read: nothing is cut off, brought into range or wrapped around. -/
theorem stored_numbers_read_exactly (kind : IntKind) (initial : Ranged kind) (stored : Json)
    (number : stored.IsNumber) :
    (∀ v : Ranged kind, stored.CountsAs v.val →
      StoreType.coerce (.int kind) stored initial = v) ∧
    ((∀ v : Ranged kind, ¬ stored.CountsAs v.val) →
      StoreType.coerce (.int kind) stored initial = initial) :=
  StoreType.coerce_of_reads (StoreType.number_reads number) initial

-- 2 ^ 63 is within the unsigned numbers of 64 bits, but not among those with a sign.
def atBoundary (negative : Bool) : Binary64 :=
  ⟨negative, twoPow 52, 11, by decide, by decide, by decide, .inl (Nat.le_refl _)⟩

theorem stored_numbers_read_exactly_at_boundary :
    StoreType.coerce (.int .int64) (.float (atBoundary true)) ⟨7, by decide, by decide⟩ =
        ⟨-9223372036854775808, by decide, by decide⟩ ∧
      StoreType.coerce (.int .nat64) (.float (atBoundary false)) ⟨7, by decide, by decide⟩ =
        ⟨7, by decide, by decide⟩ := by
  have below : (atBoundary true).exact = (-9223372036854775808 : Int) :=
    (Binary64.toInt?_eq_some_iff _ _).mp rfl
  have above : (atBoundary false).exact = (9223372036854775808 : Int) :=
    (Binary64.toInt?_eq_some_iff _ _).mp rfl
  constructor
  · exact (stored_numbers_read_exactly .int64 _ (.float (atBoundary true)) trivial).1 _
      ⟨below, by decide, by decide⟩
  · apply (stored_numbers_read_exactly .nat64 _ (.float (atBoundary false)) trivial).2
    rintro v ⟨same, -, bound⟩
    rw [above] at same
    have value : 9223372036854775808 = v.val := by exact_mod_cast same
    simp only [IntKind.greatest] at bound
    omega

namespace StoreType
variable {kind : IntKind}
open Decimal

theorem truthForms_unread (text : List Char) :
    (truthForms text).findSome? (decodeInt kind) = none := by
  unfold truthForms
  split_ifs <;> simp [decodeInt]

theorem text_reads (text : String) (v : Ranged kind) :
    (Json.str text :: otherForms (.str text)).findSome? (decodeInt kind) = some v ↔
      (numericForms (Text.trim text).toList).findSome? (decodeInt kind) = some v := by
  have unread : decodeInt kind (.str text) = none := rfl
  rw [List.findSome?_cons, unread, otherForms, List.findSome?_append, truthForms_unread,
    Option.none_or, Text.trim, String.toList_ofList]

/-- Where no whole number of 64 bits is denoted, the floating-point number decides. -/
theorem numericForms_beyond {cs : List Char} {n : Int} (denotes : Denotes cs n)
    (beyond : ¬ (Json.leastInt ≤ n ∧ n ≤ Json.greatestInt)) (v : Ranged kind) :
    (numericForms cs).findSome? (decodeInt kind) = some v ↔
      ∃ x, Binary64.read? cs = some x ∧ (Json.float x).CountsAs v.val := by
  simp only [numericForms, readSigned?_of_denotes denotes, if_neg beyond]
  cases Binary64.read? cs with
  | none => simp
  | some x =>
    have own : (integralForm x ++ [Json.float x]).findSome? (decodeInt kind) =
        (integralForm x).findSome? (decodeInt kind) := by
      simp [List.findSome?_append, decodeInt]
    simp [own, integralForm_reads]

end StoreType

namespace Binary64
open Decimal
variable {cs : List Char} {n : Int} (denotes : Denotes cs n) (large : twoPow 63 ≤ n.natAbs)

theorem ofDecimal_whole (negative : Bool) {n : Nat} (nonzero : n ≠ 0) :
    ofDecimal negative n 0 =
      if 310 ≤ (digits n).length then none else ofRatio negative n 1 := by
  have places : ¬ ((digits n).length : Int) + 0 ≤ -324 := by omega
  have one : n * tenPow (0 : Int).toNat = n := Nat.mul_one n
  have unit : tenPow (-0 : Int).toNat = 1 := rfl
  rw [ofDecimal, if_neg nonzero, if_neg places, one, unit]
  congr 1
  simp

include denotes large

theorem read?_large : read? cs =
    if 310 ≤ (digits n.natAbs).length then none
    else ofRatio (decide (n < 0)) n.natAbs 1 := by
  have positive := twoPow_pos 63
  rw [read?_of_denotes denotes (by omega), ofDecimal_whole _ (by omega)]

/-- A numeral from 2 ^ 63 on is read as a whole number that is as near as can be. -/
theorem toInt?_of_read? {x : Binary64} (read : read? cs = some x) :
    x.toInt? = some (if n < 0 then -(nearest n.natAbs : Int) else nearest n.natAbs) := by
  rw [read?_large denotes large] at read
  obtain ⟨_, rounded⟩ := Option.ite_none_left_eq_some.mp read
  have order := log2_large large
  obtain ⟨sign, whole, parts⟩ := ofRatio_nearest (by omega) rounded
  rw [toInt?_crossed, signedNumerator, sign, whole, parts]
  by_cases below : n < 0 <;> simp [below]

theorem read?_isSome (close : n.natAbs ≤ twoPow 63 + twoPow 10) : (read? cs).isSome = true := by
  have short : (digits n.natAbs).length ≤ 20 := by
    have limit : twoPow 63 + twoPow 10 < tenPow 20 := by decide
    exact (Nat.length_toDigits_le_iff (by decide) (by decide)).mpr (Nat.lt_of_le_of_lt close limit)
  rw [read?_large denotes large, if_neg (by omega)]
  exact ofRatio_isSome _ large close

end Binary64

/-- Less than the least whole number of 64 bits, and rounded to it. -/
def MissesLeast (n : Int) : Prop := IntKind.int64.least - 1024 ≤ n ∧ n < IntKind.int64.least

theorem StoreType.numeral_reads {kind : IntKind} {text : String} {n : Int}
    (denotes : Decimal.Denotes (Text.trim text).toList n) (v : Ranged kind) :
    (Json.str text :: otherForms (.str text)).findSome? (decodeInt kind) = some v ↔
      v.val = n ∨ MissesLeast n ∧ v.val = IntKind.int64.least := by
  rw [text_reads]
  by_cases within : Json.leastInt ≤ n ∧ n ≤ Json.greatestInt
  · rw [numericForms, Decimal.readSigned?_of_denotes denotes]
    simp only [if_pos within, int_reads]
    constructor
    · exact Or.inl
    · rintro (same | ⟨⟨-, below⟩, -⟩)
      · exact same
      · exact absurd within.1 (Int.not_le.mpr below)
  · have apart : v.val ≠ n := by
      intro same
      exact within (same ▸ v.inside)
    have large : twoPow 63 ≤ n.natAbs := by
      have bound : twoPow 63 = 9223372036854775808 := rfl
      simp only [Json.leastInt, Json.greatestInt] at within
      omega
    obtain ⟨above, limit⟩ := Binary64.nearest_bounds large
    have bound : twoPow 63 = 9223372036854775808 := rfl
    have margin : twoPow 10 = 1024 := rfl
    rw [numericForms_beyond denotes within]
    constructor
    · rintro ⟨x, read, value, least, greatest⟩
      have rounded := Binary64.toInt?_of_read? denotes large read
      rw [(Binary64.toInt?_eq_some_iff x v.val).mpr value, Option.some.injEq] at rounded
      simp only [MissesLeast, IntKind.least, IntKind.greatest] at least greatest ⊢
      split at rounded <;> omega
    · rintro (same | ⟨⟨close, below⟩, same⟩)
      · exact absurd same apart
      · simp only [IntKind.least] at close below same
        have near : n.natAbs ≤ twoPow 63 + twoPow 10 := by omega
        obtain ⟨x, read⟩ := Option.isSome_iff_exists.mp (Binary64.read?_isSome denotes large near)
        have rounded := Binary64.toInt?_of_read? denotes large read
        have negative : n < 0 := by omega
        rw [if_pos negative, limit.mpr near] at rounded
        have value : x.exact = v.val := by
          rw [same]
          exact (Binary64.toInt?_eq_some_iff x _).mp rounded
        exact ⟨x, read, value, by rw [same]; decide, by rw [same]; decide⟩

theorem Ranged.kind_of_least {kind : IntKind} (v : Ranged kind)
    (least : v.val = IntKind.int64.least) : kind = .int64 := by
  have bound := v.least_le
  rw [least] at bound
  cases kind with
  | int64 => rfl
  | _ => exact absurd bound (by decide)

/-- Text that denotes a whole number, blanks around it apart, is read as just that number where it
is in range, and as the initial value where it is not. There is one exception: where numbers of 64
bits with a sign are wanted, the least of them is read for a number that misses it by no more than
rounding does. -/
theorem numerals_read (kind : IntKind) (initial : Ranged kind) (text : String) (n : Int)
    (denotes : Decimal.Denotes (Text.trim text).toList n) :
    (∀ v : Ranged kind, v.val = n → StoreType.coerce (.int kind) (.str text) initial = v) ∧
    ((∀ v : Ranged kind, v.val ≠ n) → (kind = .int64 → ¬ MissesLeast n) →
      StoreType.coerce (.int kind) (.str text) initial = initial) ∧
    ∀ v : Ranged kind, MissesLeast n → v.val = IntKind.int64.least →
      StoreType.coerce (.int kind) (.str text) initial = v := by
  obtain ⟨reads, unread⟩ := StoreType.coerce_of_reads (StoreType.numeral_reads denotes) initial
  refine ⟨?_, ?_, ?_⟩
  · intro v same
    exact reads v (.inl same)
  · intro outside apart
    apply unread
    rintro v (same | ⟨misses, least⟩)
    · exact outside v same
    · exact apart (v.kind_of_least least) misses
  · intro v misses least
    exact reads v (.inr ⟨misses, least⟩)

theorem denotes_justBelow :
    Decimal.Denotes (Text.trim "-9223372036854775809").toList (-9223372036854775809) := by
  have numeral := (Decimal.numeral_iff "9223372036854775809".toList).mpr (by decide)
  have value : Decimal.magnitude "9223372036854775809".toList = 9223372036854775809 := by
    rw [← Decimal.value_eq_magnitude]
    decide
  have read := Decimal.Denotes.minus numeral
  rw [value] at read
  exact read

theorem denotes_padded : Decimal.Denotes (Text.trim "\t+00255 ").toList 255 := by
  have numeral := (Decimal.numeral_iff "00255".toList).mpr (by decide)
  have value : Decimal.magnitude "00255".toList = 255 := by
    rw [← Decimal.value_eq_magnitude]
    decide
  have read := Decimal.Denotes.plus numeral
  rw [value] at read
  exact read

theorem numerals_read_at_limits :
    StoreType.coerce (.int .int64) (.str "-9223372036854775809") ⟨7, by decide, by decide⟩ =
        ⟨-9223372036854775808, by decide, by decide⟩ ∧
      StoreType.coerce (.int .int32) (.str "-9223372036854775809") ⟨7, by decide, by decide⟩ =
        ⟨7, by decide, by decide⟩ ∧
      StoreType.coerce (.int .nat8) (.str "\t+00255 ") ⟨7, by decide, by decide⟩ =
        ⟨255, by decide, by decide⟩ := by
  refine ⟨?_, ?_, ?_⟩
  · exact (numerals_read .int64 _ _ _ denotes_justBelow).2.2 _ ⟨by decide, by decide⟩ rfl
  · apply (numerals_read .int32 _ _ _ denotes_justBelow).2.1
    · intro v same
      have least := v.least_le
      rw [same] at least
      exact absurd least (by decide)
    · nofun
  · exact (numerals_read .nat8 _ _ _ denotes_padded).1 _ rfl

/-- A number one below the least of 64 bits is out of range, and yet the initial value is not what
is read for it. -/
theorem numeral_justBelow_misread :
    Decimal.Denotes (Text.trim "-9223372036854775809").toList (-9223372036854775809) ∧
      (∀ v : Ranged .int64, v.val ≠ -9223372036854775809) ∧
      StoreType.coerce (.int .int64) (.str "-9223372036854775809") ⟨7, by decide, by decide⟩ ≠
        ⟨7, by decide, by decide⟩ := by
  refine ⟨denotes_justBelow, ?_, ?_⟩
  · intro v same
    have least := v.least_le
    rw [same] at least
    exact absurd least (by decide)
  · decide

end LiveTabs
