import Mathlib.Tactic.SplitIfs
import LiveTabs.Text.Utf8
/-!
What the decoder makes of text that stands among other bytes. The text itself comes back as it was,
and where it begins whatever came before is decoded as if nothing followed.
-/
namespace LiveTabs.Text.Utf8

/-- What is pending waits for a byte of the range in which no first byte is. -/
def Waiting : Option Pending → Prop
  | none => True
  | some part => 0x80 ≤ part.least ∧ part.greatest ≤ 0xBF

theorem lead_waiting (byte : Nat) : Waiting (lead byte).2 := by
  unfold lead
  repeat' split
  all_goals simp [Waiting]

theorem readByte_waiting (pending : Option Pending) (byte : Nat) :
    Waiting (readByte pending byte).2 := by
  cases pending with
  | none => exact lead_waiting byte
  | some part =>
    simp only [readByte]
    split_ifs
    · trivial
    · simp [Waiting]
    · exact lead_waiting byte

/-- The byte stands first in a character or is no part of one. -/
def Begins (byte : Nat) : Prop := byte < 0x80 ∨ 0xBF < byte

theorem decodeFrom_begins {pending : Option Pending} (waiting : Waiting pending) {byte : UInt8}
    (begins : Begins byte.toNat) (rest : Bytes) :
    decodeFrom pending (byte :: rest) =
      decodeFrom pending [] ++ decodeFrom none (byte :: rest) := by
  cases pending with
  | none => rfl
  | some part =>
    obtain ⟨least, greatest⟩ := waiting
    have outside : ¬ (part.least ≤ byte.toNat ∧ byte.toNat ≤ part.greatest) := by
      rcases begins with low | high <;> omega
    simp [decodeFrom, readByte, outside]

/-- Before a byte that begins a character, bytes are decoded as if they were all. -/
theorem decodeFrom_append {pending : Option Pending} (waiting : Waiting pending) (bytes : Bytes)
    {byte : UInt8} (begins : Begins byte.toNat) (rest : Bytes) :
    decodeFrom pending (bytes ++ byte :: rest) =
      decodeFrom pending bytes ++ decodeFrom none (byte :: rest) := by
  induction bytes generalizing pending with
  | nil => exact decodeFrom_begins waiting begins rest
  | cons first others ih =>
    have later := ih (readByte_waiting pending first.toNat)
    simp only [List.cons_append, decodeFrom, List.append_assoc] at later ⊢
    rw [later]

/-! The bytes of one character, each with what it leaves pending. -/
section

theorem decodeFrom_ofNat (pending : Option Pending) {n : Nat} (small : n < 256) (rest : Bytes) :
    decodeFrom pending (UInt8.ofNat n :: rest) =
      (readByte pending n).1 ++ decodeFrom (readByte pending n).2 rest := by
  rw [decodeFrom, UInt8.toNat_ofNat_of_lt' small]

variable {bits least greatest digit : Nat} (low : least ≤ digit + 128)
  (high : digit + 128 ≤ greatest)
include low high

theorem readByte_last :
    readByte (some ⟨bits, 1, least, greatest⟩) (digit + 128) =
      ([Char.ofNat (bits * 64 + digit)], none) := by
  simp [readByte, low, high]

theorem readByte_more (missing : Nat) :
    readByte (some ⟨bits, missing + 2, least, greatest⟩) (digit + 128) =
      ([], some ⟨bits * 64 + digit, missing + 1, 0x80, 0xBF⟩) := by
  simp [readByte, low, high]

end

section
variable {code : Nat}

theorem lead_one (small : code ≤ 0x7F) : lead code = ([Char.ofNat code], none) := by
  rw [lead, if_pos (by omega)]

theorem lead_two (least : 0x7F < code) (greatest : code ≤ 0x7FF) :
    lead (code / 64 % 32 + 192) = ([], some ⟨code / 64, 1, 0x80, 0xBF⟩) := by
  have bits : code / 64 % 32 + 192 - 0xC0 = code / 64 := by omega
  rw [lead, if_neg (by omega), if_neg (by omega), if_pos (by omega), bits]

/-- The second byte of three is in range since the code is neither small nor a surrogate. -/
theorem lead_three (least : 0x7FF < code) (greatest : code ≤ 0xFFFF)
    (plain : code < 0xD800 ∨ 0xDFFF < code) :
    ∃ low high, lead (code / 4096 % 16 + 224) = ([], some ⟨code / 4096, 2, low, high⟩) ∧
      low ≤ code / 64 % 64 + 128 ∧ code / 64 % 64 + 128 ≤ high := by
  have leading : code / 4096 % 16 = code / 4096 := by omega
  rw [leading, lead, if_neg (by omega), if_neg (by omega), if_neg (by omega)]
  split_ifs with first surrogates
  · exact ⟨0xA0, 0xBF, by rw [show code / 4096 = 0 by omega], by omega, by omega⟩
  · exact ⟨0x80, 0x9F, by rw [show code / 4096 = 0xD by omega], by omega, by omega⟩
  · exact ⟨0x80, 0xBF, by rw [Nat.add_sub_cancel], by omega, by omega⟩
  all_goals omega

/-- The second byte of four is in range since the code is neither small nor too large. -/
theorem lead_four (least : 0xFFFF < code) (greatest : code < 0x110000) :
    ∃ low high, lead (code / 262144 % 8 + 240) = ([], some ⟨code / 262144, 3, low, high⟩) ∧
      low ≤ code / 4096 % 64 + 128 ∧ code / 4096 % 64 + 128 ≤ high := by
  have leading : code / 262144 % 8 = code / 262144 := by omega
  rw [leading, lead, if_neg (by omega), if_neg (by omega), if_neg (by omega), if_neg (by omega),
    if_neg (by omega), if_neg (by omega)]
  split_ifs with first middle last
  · exact ⟨0x90, 0xBF, by rw [show code / 262144 = 0 by omega], by omega, by omega⟩
  · exact ⟨0x80, 0xBF, by rw [Nat.add_sub_cancel], by omega, by omega⟩
  · exact ⟨0x80, 0x8F, by rw [show code / 262144 = 4 by omega], by omega, by omega⟩
  · omega

end

theorem decodeFrom_encodeChar (c : Char) (rest : Bytes) :
    decodeFrom none (String.utf8EncodeChar c ++ rest) = c :: decodeFrom none rest := by
  have valid : c.val.toNat < 0xD800 ∨ 0xDFFF < c.val.toNat ∧ c.val.toNat < 0x110000 := c.valid
  have code : Char.ofNat c.val.toNat = c := Char.ofNat_toNat c
  have digit (n : Nat) : n % 64 + 128 < 256 ∧ 128 ≤ n % 64 + 128 ∧ n % 64 + 128 ≤ 191 := by omega
  simp only [String.utf8EncodeChar]
  generalize c.val.toNat = v at valid code ⊢
  split_ifs with one two three
  · rw [List.singleton_append, decodeFrom_ofNat none (by omega), readByte, lead_one one, code]
    rfl
  · rw [List.cons_append, List.singleton_append, decodeFrom_ofNat none (by omega), readByte,
      lead_two (by omega) two, decodeFrom_ofNat _ (digit v).1,
      readByte_last (digit v).2.1 (digit v).2.2, show v / 64 * 64 + v % 64 = v by omega, code]
    rfl
  · obtain ⟨low, high, first, above, below⟩ := lead_three (by omega) three (by omega)
    rw [List.cons_append, List.cons_append, List.singleton_append, decodeFrom_ofNat none (by omega),
      readByte, first, decodeFrom_ofNat _ (digit _).1, readByte_more above below,
      decodeFrom_ofNat _ (digit v).1, readByte_last (digit v).2.1 (digit v).2.2,
      show (v / 4096 * 64 + v / 64 % 64) * 64 + v % 64 = v by omega, code]
    rfl
  · have four : 0xFFFF < v := by omega
    obtain ⟨low, high, first, above, below⟩ := lead_four four (by omega)
    rw [List.cons_append, List.cons_append, List.cons_append, List.singleton_append,
      decodeFrom_ofNat none (by omega), readByte, first, decodeFrom_ofNat _ (digit _).1,
      readByte_more above below, decodeFrom_ofNat _ (digit _).1,
      readByte_more (digit _).2.1 (digit _).2.2, decodeFrom_ofNat _ (digit v).1,
      readByte_last (digit v).2.1 (digit v).2.2,
      show ((v / 262144 * 64 + v / 4096 % 64) * 64 + v / 64 % 64) * 64 + v % 64 = v by omega, code]
    rfl

theorem encodeChar_begins (c : Char) :
    ∃ byte others, String.utf8EncodeChar c = byte :: others ∧ Begins byte.toNat := by
  simp only [String.utf8EncodeChar, Begins]
  generalize c.val.toNat = v
  split_ifs with one two three
  all_goals
    refine ⟨_, _, rfl, ?_⟩
    rw [UInt8.toNat_ofNat_of_lt' (by change _ < 256; omega)]
    omega

theorem decodeChars_encode_append (s : String) (rest : Bytes) :
    decodeChars (encode s ++ rest) = s.toList ++ decodeChars rest := by
  rw [encode, encodeChars]
  induction s.toList with
  | nil => rfl
  | cons c cs ih =>
    rw [List.flatMap_cons, List.append_assoc, decodeChars, decodeFrom_encodeChar, List.cons_append]
    exact congrArg (List.cons c) ih

theorem decodeChars_append_encode {s : String} (present : s ≠ "") (bytes rest : Bytes) :
    decodeChars (bytes ++ (encode s ++ rest)) =
      decodeChars bytes ++ decodeChars (encode s ++ rest) := by
  rw [encode, encodeChars]
  cases text : s.toList with
  | nil => exact absurd (String.toList_eq_nil_iff.mp text) present
  | cons c cs =>
    have nothing : Waiting none := trivial
    obtain ⟨byte, others, bytesOf, begins⟩ := encodeChar_begins c
    rw [List.flatMap_cons, bytesOf, List.cons_append, List.cons_append]
    exact decodeFrom_append nothing bytes begins _

/-- Text is read back, whatever bytes follow it. -/
theorem decode_encode_append (s : String) (rest : Bytes) :
    decode (encode s ++ rest) = s ++ decode rest := by
  rw [decode, decodeChars_encode_append, String.ofList_append, String.ofList_toList, decode]

theorem decode_encode (s : String) : decode (encode s) = s := by
  simpa [decode, decodeChars, decodeFrom] using decode_encode_append s []

/-- Where text begins, the bytes before it are decoded by themselves. -/
theorem decode_append_encode {s : String} (present : s ≠ "") (bytes rest : Bytes) :
    decode (bytes ++ (encode s ++ rest)) = decode bytes ++ (s ++ decode rest) := by
  rw [decode, decodeChars_append_encode present, String.ofList_append, ← decode_encode_append,
    decode, decode]

end LiveTabs.Text.Utf8
