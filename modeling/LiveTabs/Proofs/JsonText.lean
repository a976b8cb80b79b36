import Mathlib.Tactic.SplitIfs
import LiveTabs.Json.Printer
import LiveTabs.Json.Token
/-!
The compact text of a value is one line. Strings escape the characters below a space, and nothing
else writes one.
-/
namespace LiveTabs

/-- No characters below a space, among which are those that end a line. -/
def Text.Plain (cs : List Char) : Prop := ∀ c ∈ cs, 0x20 ≤ c.toNat

namespace Text.Plain

theorem nil : Plain [] := nofun

theorem cons {c : Char} {cs : List Char} (first : 0x20 ≤ c.toNat) (rest : Plain cs) :
    Plain (c :: cs) :=
  List.forall_mem_cons.mpr ⟨first, rest⟩

theorem append {cs others : List Char} (first : Plain cs) (rest : Plain others) :
    Plain (cs ++ others) :=
  List.forall_mem_append.mpr ⟨first, rest⟩

theorem subset {cs others : List Char} (plain : Plain others) (inside : cs ⊆ others) : Plain cs :=
  fun c member => plain c (inside member)

theorem replicate (count : Nat) {c : Char} (plain : 0x20 ≤ c.toNat) :
    Plain (List.replicate count c) := by
  intro other member
  rw [List.eq_of_mem_replicate member]
  exact plain

theorem of_all {cs : List Char} (all : (cs.all fun c => 0x20 ≤ c.toNat) = true) : Plain cs :=
  fun c member => of_decide_eq_true (List.all_eq_true.mp all c member)

theorem not_mem {cs : List Char} (plain : Plain cs) {c : Char} (control : c.toNat < 0x20) :
    c ∉ cs :=
  fun member => Nat.not_le_of_lt control (plain c member)

end Text.Plain

open Text

theorem Decimal.digits_plain (n : Nat) : Plain (digits n) := by
  intro c member
  have digit := List.all_eq_true.mp (digits_all_digit n) c member
  rw [Char.isDigit, Bool.and_eq_true, decide_eq_true_eq] at digit
  exact Nat.le_trans (by decide) (UInt32.le_iff_toNat_le.mp digit.1)

theorem Decimal.ofInt_plain (n : Int) : Plain (ofInt n) := by
  unfold ofInt
  split
  · exact .cons (by decide) (digits_plain _)
  · exact digits_plain _

namespace Json

theorem pointed_plain {digits : List Char} (plain : Plain digits) (whole : Nat) :
    Plain (pointed digits whole) := by
  have before : Plain (digits.take whole ++ List.replicate (whole - digits.length) '0') :=
    (plain.subset (List.take_subset whole digits)).append (.replicate _ (by decide))
  refine before.append (.cons (by decide) ?_)
  split
  · exact .cons (by decide) .nil
  · exact plain.subset (List.drop_subset whole digits)

theorem scientific_plain {digits : List Char} (plain : Plain digits) (order : Int) :
    Plain (scientific digits order) := by
  have fraction : Plain (if (digits.drop 1).isEmpty then [] else '.' :: digits.drop 1) := by
    split
    · exact .nil
    · exact .cons (by decide) (plain.subset (List.drop_subset 1 digits))
  refine ((plain.subset (List.take_subset 1 digits)).append fraction).append
    (.cons (by decide) (.cons ?_ (Decimal.digits_plain _)))
  split <;> decide

theorem writeMagnitude_plain (decimal : Binary64.ShortDecimal) :
    Plain (writeMagnitude decimal) := by
  unfold writeMagnitude
  dsimp only
  split
  · exact .cons (by decide) (.cons (by decide) (.cons (by decide) .nil))
  · have digits := Decimal.digits_plain decimal.significand
    have significant : Plain
        ((Decimal.digits decimal.significand).reverse.dropWhile (· == '0')).reverse :=
      digits.subset fun c member =>
        List.mem_reverse.mp ((List.dropWhile_sublist _).mem (List.mem_reverse.mp member))
    unfold placed
    split
    · exact scientific_plain significant _
    · split
      · exact .append (.cons (by decide) (.cons (by decide) (.replicate _ (by decide)))) significant
      · exact pointed_plain significant _

theorem writeFloat_plain (x : Binary64) : Plain (writeFloat x) := by
  refine .append ?_ ?_
  · split
    · exact .cons (by decide) .nil
    · exact .nil
  · cases x.shortest with
    | none => exact .nil
    | some decimal => exact writeMagnitude_plain decimal

theorem hexDigit_plain : ∀ n < 16, 0x20 ≤ (hexDigit n).toNat := by decide

/-- How a character stands in a string: as a letter after a backslash, by its number, or as it is. -/
theorem escapeChar_cases (c : Char) :
    (∃ letter, escapeChar c = ['\\', letter] ∧ unescape? letter = some c ∧ 0x20 ≤ letter.toNat) ∨
      (c.toNat < 0x20 ∧ escapeChar c =
        ['\\', 'u', '0', '0', hexDigit (c.toNat / 16), hexDigit (c.toNat % 16)]) ∨
      (escapeChar c = [c] ∧ c ≠ '"' ∧ c ≠ '\\' ∧ 0x20 ≤ c.toNat) := by
  unfold escapeChar
  split_ifs with quote backslash backspace formFeed lineFeed carriage tab control
  · exact .inl ⟨'"', rfl, congrArg some quote.symm, by decide⟩
  · exact .inl ⟨'\\', rfl, congrArg some backslash.symm, by decide⟩
  · exact .inl ⟨'b', rfl, congrArg some backspace.symm, by decide⟩
  · exact .inl ⟨'f', rfl, congrArg some formFeed.symm, by decide⟩
  · exact .inl ⟨'n', rfl, congrArg some lineFeed.symm, by decide⟩
  · exact .inl ⟨'r', rfl, congrArg some carriage.symm, by decide⟩
  · exact .inl ⟨'t', rfl, congrArg some tab.symm, by decide⟩
  · exact .inr (.inl ⟨control, rfl⟩)
  · exact .inr (.inr ⟨rfl, quote, backslash, Nat.not_lt.mp control⟩)

theorem escapeChar_plain (c : Char) : Plain (escapeChar c) := by
  obtain ⟨letter, short, -, plain⟩ | ⟨control, long⟩ | ⟨itself, -, -, plain⟩ := escapeChar_cases c
  · rw [short]
    exact .cons (by decide) (.cons plain .nil)
  · rw [long]
    exact .cons (by decide) (.cons (by decide) (.cons (by decide) (.cons (by decide)
      (.cons (hexDigit_plain _ (by omega)) (.cons (hexDigit_plain _ (by omega)) .nil)))))
  · rw [itself]
    exact .cons plain .nil

theorem quoted_plain (s : String) : Plain (quoted s) := by
  have inner : Plain (s.toList.flatMap escapeChar) := by
    intro c member
    obtain ⟨source, -, escaped⟩ := List.mem_flatMap.mp member
    exact escapeChar_plain source c escaped
  exact .append (.cons (by decide) inner) (.cons (by decide) .nil)

mutual

theorem write_plain : (value : Json) → Plain value.write
  | .null => .of_all rfl
  | .bool true => .of_all rfl
  | .bool false => .of_all rfl
  | .int n => Decimal.ofInt_plain n
  | .float x => writeFloat_plain x
  | .str s => quoted_plain s
  | .arr items => .append (.cons (by decide) (writeItems_plain items)) (.cons (by decide) .nil)
  | .obj members => .append (.cons (by decide) (writeMembers_plain members)) (.cons (by decide) .nil)

theorem writeItems_plain : (items : List Json) → Plain (writeItems items)
  | [] => .nil
  | [item] => write_plain item
  | item :: next :: rest =>
    .append (write_plain item) (.cons (by decide) (writeItems_plain (next :: rest)))

theorem writeMembers_plain : (members : List (String × Json)) → Plain (writeMembers members)
  | [] => .nil
  | [(key, value)] => .append (quoted_plain key) (.cons (by decide) (write_plain value))
  | (key, value) :: next :: rest =>
    .append (.append (quoted_plain key) (.cons (by decide) (write_plain value)))
      (.cons (by decide) (writeMembers_plain (next :: rest)))

end

end Json
end LiveTabs
