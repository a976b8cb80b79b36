import LiveTabs.Proofs.JsonGrammar
import LiveTabs.Proofs.JsonNumbers
/-!
The tokens that the scanner makes of the parts of a text. What it makes of a part does not depend on
what comes after it, but for a word, which goes on until something ends it.
-/
namespace LiveTabs.Json

section
variable {mode next : Mode} {c : Char} {tokens : List Token}

theorem scanFrom_step (step : scanChar mode c = some (next, tokens)) (rest : List Char) :
    scanFrom mode (c :: rest) = (scanFrom next rest).map (tokens ++ ·) := by
  rw [scanFrom, step]

theorem scanFrom_silent (step : scanChar mode c = some (next, [])) (rest : List Char) :
    scanFrom mode (c :: rest) = scanFrom next rest := by
  simp [scanFrom_step step]

end

/-- In front of the rest of a text, the part is scanned into the tokens. -/
def Scanned (cs : List Char) (tokens : List Token) (rest : List Char) : Prop :=
  scanFrom .between (cs ++ rest) = (scanFrom .between rest).map (tokens ++ ·)

namespace Scanned
variable {cs others rest : List Char} {tokens more : List Token}

theorem nil : Scanned [] [] rest := by simp [Scanned]

theorem append (first : Scanned cs tokens (others ++ rest)) (later : Scanned others more rest) :
    Scanned (cs ++ others) (tokens ++ more) rest := by
  unfold Scanned at first later ⊢
  rw [List.append_assoc, first, later, Option.map_map]
  simp [Function.comp_def]

theorem cons {c : Char} (first : Scanned [c] tokens (others ++ rest))
    (later : Scanned others more rest) : Scanned (c :: others) (tokens ++ more) rest :=
  first.append later

end Scanned

/-! Blanks and marks. -/

theorem scanned_blank {c : Char} (blank : c = ' ' ∨ c = '\t' ∨ c = '\n' ∨ c = '\r')
    (rest : List Char) : Scanned [c] [] rest := by
  rcases blank with rfl | rfl | rfl | rfl <;> rfl

theorem scanned_blanks {cs : List Char} (blanks : Blanks cs) (rest : List Char) :
    Scanned cs [] rest := by
  induction cs with
  | nil => exact .nil
  | cons c others ih =>
    obtain ⟨first, later⟩ := List.forall_mem_cons.mp blanks
    exact (scanned_blank first _).cons (ih later)

/-- A mark is a token by itself. -/
theorem begin_mark {c : Char} {token : Token} (means : punctuation? c = some token) :
    begin c = (.between, [token]) := by
  unfold punctuation? at means
  split at means <;> cases means <;> rfl

theorem scanned_mark {c : Char} {token : Token} (means : punctuation? c = some token)
    (rest : List Char) : Scanned [c] [token] rest := by
  have step : scanChar .between c = some (.between, [token]) := congrArg some (begin_mark means)
  exact scanFrom_step step rest

/-- Nothing more, or a character that belongs to no word. -/
def Ended : List Char → Prop
  | [] => True
  | c :: _ => begin c = (.inString [], []) ∨ ∃ tokens, begin c = (.between, tokens)

theorem ended_blanks {cs rest : List Char} (blanks : Blanks cs) (ended : Ended rest) :
    Ended (cs ++ rest) := by
  cases cs with
  | nil => exact ended
  | cons c others =>
    refine .inr ⟨[], ?_⟩
    rcases blanks c List.mem_cons_self with rfl | rfl | rfl | rfl <;> rfl

theorem ended_mark {c : Char} {token : Token} (means : punctuation? c = some token)
    (rest : List Char) : Ended (c :: rest) :=
  .inr ⟨[token], begin_mark means⟩

/-! Parts with marks around them and between them. -/

theorem scanned_enclosed {cs : List Char} {tokens : List Token}
    (inside : ∀ rest, Ended rest → Scanned cs tokens rest) {left right : Char}
    {opening closing : Token} (opens : punctuation? left = some opening)
    (closes : punctuation? right = some closing) (rest : List Char) :
    Scanned (left :: (cs ++ [right])) ([opening] ++ (tokens ++ [closing])) rest :=
  (scanned_mark opens _).cons
    ((inside _ (ended_mark closes rest)).append (scanned_mark closes rest))

theorem scanned_listed {cs others : List Char} {tokens more : List Token}
    (first : ∀ rest, Ended rest → Scanned cs tokens rest)
    (later : ∀ rest, Ended rest → Scanned others more rest) {rest : List Char}
    (ended : Ended rest) : Scanned (cs ++ ',' :: others) (tokens ++ ([.comma] ++ more)) rest :=
  (first _ (ended_mark rfl _)).append ((scanned_mark rfl _).cons (later rest ended))

/-! Words. -/

def Wordy (c : Char) : Prop := begin c = (.inWord [c], [])

def literalLetters : List Char := ['n', 'u', 'l', 't', 'r', 'e', 'f', 'a', 's']

theorem wordy_of_letter {c : Char} (letter : c ∈ literalLetters) : Wordy c := by
  simp only [literalLetters, List.mem_cons, List.not_mem_nil, or_false] at letter
  rcases letter with rfl | rfl | rfl | rfl | rfl | rfl | rfl | rfl | rfl <;> rfl

theorem scan_ended (word : List Char) {rest : List Char} (ended : Ended rest) :
    scanFrom (.inWord word) rest =
      (scanFrom .between rest).map (.word word.reverse :: ·) := by
  cases rest with
  | nil => rfl
  | cons c others =>
    rcases ended with quoted | ⟨tokens, plain⟩
    · simp [scanFrom, scanChar, quoted]
    · simp [scanFrom, scanChar, plain, Function.comp_def]

theorem scan_wordy (word cs rest : List Char) (wordy : ∀ c ∈ cs, Wordy c) :
    scanFrom (.inWord word) (cs ++ rest) = scanFrom (.inWord (cs.reverse ++ word)) rest := by
  induction cs generalizing word with
  | nil => rfl
  | cons c others ih =>
    obtain ⟨first, later⟩ := List.forall_mem_cons.mp wordy
    have step : scanChar (.inWord word) c = some (.inWord (c :: word), []) := by
      rw [Wordy] at first
      simp [scanChar, first]
    rw [List.cons_append, scanFrom_silent step, ih _ later, List.reverse_cons, List.append_assoc]
    rfl

theorem scanned_word {cs rest : List Char} (nonempty : cs ≠ []) (wordy : ∀ c ∈ cs, Wordy c)
    (ended : Ended rest) : Scanned cs [.word cs] rest := by
  cases cs with
  | nil => exact absurd rfl nonempty
  | cons c others =>
    obtain ⟨first, later⟩ := List.forall_mem_cons.mp wordy
    have step : scanChar .between c = some (.inWord [c], []) := congrArg some first
    rw [Scanned, List.cons_append, scanFrom_silent step, scan_wordy _ _ _ later, scan_ended _ ended]
    simp

theorem InNumber.wordy {c : Char} (inside : InNumber c) : Wordy c := by
  rcases inside with digit | sign
  · have apart : ∀ other ∈ ['"', ' ', '\t', '\n', '\r', '[', ']', '{', '}', ',', ':'], c ≠ other := by
      rintro other listed rfl
      simp only [List.mem_cons, List.not_mem_nil, or_false] at listed
      rcases listed with rfl | rfl | rfl | rfl | rfl | rfl | rfl | rfl | rfl | rfl | rfl <;>
        nomatch digit
    simp only [List.forall_mem_cons, List.not_mem_nil, false_implies, implies_true, and_true] at apart
    obtain ⟨quote, space, tab, feed, carriage, rest⟩ := apart
    have blank : isBlank c = false := by simp [isBlank, space, tab, feed, carriage]
    have plain : punctuation? c = none := by
      unfold punctuation?
      split <;> simp_all
    simp [Wordy, begin, quote, blank, plain]
  · simp only [List.mem_cons, List.not_mem_nil, or_false] at sign
    rcases sign with rfl | rfl | rfl | rfl | rfl <;> rfl

/-! Strings. -/

theorem hexValue?_of_hexDigit {c : Char} {n : Nat} (digit : HexDigit c n) : hexValue? c = some n := by
  have lower : ∀ n (inside : n < hexDigits.length), hexValue? hexDigits[n] = some n := by decide
  have upper : ∀ n (inside : n < upperHexDigits.length), hexValue? upperHexDigits[n] = some n := by
    decide
  rcases digit with found | found
  · obtain ⟨inside, rfl⟩ := List.getElem?_eq_some_iff.mp found
    exact lower n inside
  · obtain ⟨inside, rfl⟩ := List.getElem?_eq_some_iff.mp found
    exact upper n inside

theorem unescape?_of_escapes {letter c : Char} (listed : (letter, c) ∈ escapes) :
    letter ≠ 'u' ∧ unescape? letter = some c := by
  have every : ∀ entry ∈ escapes, entry.1 ≠ 'u' ∧ unescape? entry.1 = some entry.2 := by decide
  exact every _ listed

theorem scan_hexDigit {c : Char} {n : Nat} (digit : HexDigit c n) (done : List Char)
    (high : Option Nat) (missing unit : Nat) (rest : List Char) :
    scanFrom (.inHex done high (missing + 2) unit) (c :: rest) =
      scanFrom (.inHex done high (missing + 1) (16 * unit + n)) rest :=
  scanFrom_silent (by simp [scanChar, hexValue?_of_hexDigit digit]) rest

theorem scan_hexUnit {digits : List Char} {unit : Nat} (number : HexUnit digits unit)
    {done : List Char} {high : Option Nat} {next : Mode} (after : afterUnit done high unit = some next)
    (rest : List Char) :
    scanFrom (.escaped done high) ('u' :: (digits ++ rest)) = scanFrom next rest := by
  obtain ⟨one, two, three, four⟩ := number
  have begun : scanChar (.escaped done high) 'u' = some (.inHex done high 4 0, []) := rfl
  simp only [Nat.mul_comm _ 16] at after
  have complete (unit : Nat) (same : afterUnit done high unit = some next) {c : Char} {digit : Nat}
      (last : HexDigit c digit) {earlier : Nat} (worth : 16 * earlier + digit = unit) :
      scanChar (.inHex done high 1 earlier) c = some (next, []) := by
    subst worth
    simp [scanChar, hexValue?_of_hexDigit last, same]
  simp only [List.cons_append, List.nil_append]
  rw [scanFrom_silent begun, scan_hexDigit one, scan_hexDigit two, scan_hexDigit three,
    scanFrom_silent (complete _ after four (by simp))]

/-- Inside a string the characters that it spells are gathered, behind those before. -/
theorem scan_string {cs s : List Char} (spelled : StringText cs s) (done rest : List Char) :
    scanFrom (.inString done) (cs ++ '"' :: rest) =
      (scanFrom .between rest).map (.str (String.ofList (done.reverse ++ s)) :: ·) := by
  have opened (done cs : List Char) :
      scanFrom (.inString done) ('\\' :: cs) = scanFrom (.escaped done none) cs :=
    scanFrom_silent rfl cs
  induction spelled generalizing done with
  | nil =>
    have closed : scanChar (.inString done) '"' =
        some (.between, [.str (String.ofList done.reverse)]) := rfl
    rw [List.append_nil]
    exact scanFrom_step closed rest
  | @plain c cs s unquoted unescaped printed _ ih =>
    have step : scanChar (.inString done) c = some (.inString (c :: done), []) := by
      simp [scanChar, unquoted, unescaped, Nat.not_lt.mpr printed]
    rw [List.cons_append, scanFrom_silent step, ih]
    simp
  | @short letter c cs s listed _ ih =>
    obtain ⟨plain, means⟩ := unescape?_of_escapes listed
    have step : scanChar (.escaped done none) letter = some (.inString (c :: done), []) := by
      simp [scanChar, plain, means]
    rw [List.cons_append, List.cons_append, opened, scanFrom_silent step, ih]
    simp
  | @unit digits cs s unit number whole _ ih =>
    have after : afterUnit done none unit = some (.inString (Char.ofNat unit :: done)) := by
      unfold afterUnit
      dsimp only
      rw [if_neg (by omega), if_neg (by omega)]
    rw [List.cons_append, List.cons_append, List.append_assoc, opened, scan_hexUnit number after, ih]
    simp
  | @pair digits others cs s high low first second highHalf lowHalf _ ih =>
    have half : afterUnit done none high = some (.afterHigh done high) := by
      unfold afterUnit
      dsimp only
      rw [if_pos highHalf]
    have after : afterUnit done (some high) low = some (.inString
        (Char.ofNat (0x10000 + (high - 0xD800) * 0x400 + (low - 0xDC00)) :: done)) := by
      unfold afterUnit
      dsimp only
      rw [if_pos lowHalf]
    have again : scanChar (.afterHigh done high) '\\' = some (.escaped done (some high), []) := rfl
    simp only [List.cons_append, List.append_assoc]
    rw [opened, scan_hexUnit first half, scanFrom_silent again, scan_hexUnit second after, ih]
    simp

theorem scanned_string {cs s : List Char} (spelled : StringText cs s) (rest : List Char) :
    Scanned ('"' :: (cs ++ ['"'])) [.str (String.ofList s)] rest := by
  have inside := scan_string spelled [] rest
  have opened : scanChar .between '"' = some (.inString [], []) := rfl
  rw [Scanned, List.cons_append, List.append_assoc, scanFrom_silent opened]
  exact inside

end LiveTabs.Json
