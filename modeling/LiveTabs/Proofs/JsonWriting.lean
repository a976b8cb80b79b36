import LiveTabs.Proofs.JsonGrammar
import LiveTabs.Proofs.JsonText
import LiveTabs.Proofs.KeyMap
/-!
What is written denotes the value that was written, as long as all numbers are whole ones of 64 bits.
-/
namespace LiveTabs

namespace Json

theorem hexDigit_of_lt {n : Nat} (small : n < 16) : HexDigit (hexDigit n) n := by
  have every : ∀ n < 16, hexDigits[n]? = some (hexDigit n) := by decide
  exact .inl (every n small)

theorem listed_of_unescape? {letter c : Char} (means : unescape? letter = some c) :
    (letter, c) ∈ escapes := by
  unfold unescape? at means
  split at means <;> first | (cases means; decide) | nomatch means

/-- A character that is escaped is spelled. -/
theorem escapeChar_text (c : Char) {cs s : List Char} (rest : StringText cs s) :
    StringText (escapeChar c ++ cs) (c :: s) := by
  obtain ⟨letter, short, means, -⟩ | ⟨control, long⟩ | ⟨itself, quote, backslash, printed⟩ :=
    escapeChar_cases c
  · rw [short]
    exact .short (listed_of_unescape? means) rest
  · rw [long]
    have number := HexUnit.mk (.inl rfl : HexDigit '0' 0) (.inl rfl : HexDigit '0' 0)
      (hexDigit_of_lt (n := c.toNat / 16) (by omega))
      (hexDigit_of_lt (n := c.toNat % 16) (by omega))
    have worth : ((0 * 16 + 0) * 16 + c.toNat / 16) * 16 + c.toNat % 16 = c.toNat := by omega
    rw [worth] at number
    have spelled := StringText.unit number (.inl (by omega)) rest
    rw [Char.ofNat_toNat] at spelled
    exact spelled
  · rw [itself]
    exact .plain quote backslash printed rest

theorem escape_text (s : List Char) : StringText (s.flatMap escapeChar) s := by
  induction s with
  | nil => exact .nil
  | cons c rest ih => exact escapeChar_text c ih

theorem no_blanks : Blanks [] := nofun

theorem quoted_text (s : String) (levels : Nat) : ValueText levels (quoted s) (.str s) := by
  have spelled : ValueText levels (quoted s) (.str (String.ofList s.toList)) :=
    .str (escape_text s.toList)
  rw [String.ofList_toList] at spelled
  exact spelled

/-- Whole numbers of 64 bits, members in key order, and no more levels of arrays and objects. -/
inductive Sendable : Nat → Json → Prop
  | null {levels : Nat} : Sendable levels .null
  | bool {levels : Nat} (b : Bool) : Sendable levels (.bool b)
  | int {levels : Nat} {n : Int} (least : leastInt ≤ n) (greatest : n ≤ greatestInt) :
    Sendable levels (.int n)
  | str {levels : Nat} (s : String) : Sendable levels (.str s)
  | arr {levels : Nat} {items : List Json} (inside : ∀ item ∈ items, Sendable levels item) :
    Sendable (levels + 1) (.arr items)
  | obj {levels : Nat} {members : List (String × Json)}
    (ordered : members.Pairwise fun left right => left.1 < right.1)
    (inside : ∀ member ∈ members, Sendable levels member.2) : Sendable (levels + 1) (.obj members)

theorem writeItems_text {levels : Nat} {items : List Json} (nonempty : items ≠ [])
    (inside : ∀ item ∈ items, ValueText levels item.write item) :
    ItemsText levels (writeItems items) items := by
  induction items with
  | nil => exact absurd rfl nonempty
  | cons item rest ih =>
    obtain ⟨first, later⟩ := List.forall_mem_cons.mp inside
    cases rest with
    | nil =>
      have spelled := ItemsText.last no_blanks first no_blanks
      rw [List.nil_append, List.append_nil] at spelled
      exact spelled
    | cons next others =>
      have spelled := ItemsText.more no_blanks first no_blanks
        (ih (List.cons_ne_nil next others) later)
      rw [List.nil_append, List.append_nil] at spelled
      exact spelled

theorem writeMember_text {levels : Nat} {key : String} {value : Json}
    (inside : ValueText levels value.write value) :
    MemberText levels (quoted key ++ ':' :: value.write) (key, value) := by
  have spelled := MemberText.mk no_blanks (escape_text key.toList) no_blanks no_blanks inside no_blanks
  rw [String.ofList_toList] at spelled
  simpa [quoted] using spelled

theorem writeMembers_text {levels : Nat} {members : List (String × Json)} (nonempty : members ≠ [])
    (inside : ∀ member ∈ members, ValueText levels member.2.write member.2) :
    MembersText levels (writeMembers members) members := by
  induction members with
  | nil => exact absurd rfl nonempty
  | cons member rest ih =>
    obtain ⟨first, later⟩ := List.forall_mem_cons.mp inside
    cases rest with
    | nil => exact .last (writeMember_text first)
    | cons next others =>
      exact .more (writeMember_text first) (ih (List.cons_ne_nil next others) later)

end Json

theorem KeyMap.ofList_ordered {α : Type} {entries : List (String × α)}
    (ordered : entries.Pairwise fun left right => left.1 < right.1) :
    KeyMap.ofList entries = ⟨entries, ordered⟩ := by
  apply ext_get?
  intro key
  rw [ofList, get?_insertAll_ordered empty entries ordered key, get?_empty, Option.or_none]
  rfl

namespace Json

theorem Sendable.written {levels : Nat} {value : Json} (sendable : Sendable levels value) :
    ValueText levels value.write value := by
  induction sendable with
  | null => exact .null
  | bool b => cases b <;> first | exact .true | exact .false
  | int least greatest => exact .int least greatest
  | str s => exact quoted_text s _
  | @arr levels items _ ih =>
    cases items with
    | nil => exact .noItems no_blanks
    | cons item rest => exact .arr (writeItems_text (List.cons_ne_nil item rest) ih)
  | @obj levels members ordered _ ih =>
    cases members with
    | nil => exact .noMembers no_blanks
    | cons member rest =>
      have spelled := ValueText.obj (writeMembers_text (List.cons_ne_nil member rest) ih)
      rw [KeyMap.ofList_ordered ordered] at spelled
      exact spelled

end Json
end LiveTabs
