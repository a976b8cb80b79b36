import LiveTabs.Proofs.CookieReturn
import LiveTabs.Proofs.Numerals
/-!
How the variables are read into a configuration: which ones are valid and what they set, which one
is reported and why where some are not, and that a configuration is read back from the variables
that it is written to.
-/
namespace LiveTabs

namespace Text

/-- The text without the blanks around it. -/
structure Trims (cs core : List Char) : Prop where
  around : ∃ front back, cs = front ++ (core ++ back) ∧ (∀ c ∈ front, isBlank c = true) ∧
    ∀ c ∈ back, isBlank c = true
  first : ∀ c, core.head? = some c → isBlank c = false
  last : ∀ c, core.getLast? = some c → isBlank c = false

theorem dropWhile_front {drop : Char → Bool} {front rest : List Char}
    (dropped : ∀ c ∈ front, drop c = true) (kept : ∀ c, rest.head? = some c → drop c = false) :
    (front ++ rest).dropWhile drop = rest := by
  rw [List.dropWhile_append_of_pos dropped]
  cases rest with
  | nil => rfl
  | cons c others => simp [kept c rfl]

theorem head?_dropWhile (drop : Char → Bool) (cs : List Char) (c : Char)
    (first : (cs.dropWhile drop).head? = some c) : drop c = false := by
  have stops := List.head?_dropWhile_not drop cs
  rw [first] at stops
  simpa using stops

theorem trims_trimBy (cs : List Char) : Trims cs (trimBy isBlank cs) := by
  let kept := cs.dropWhile isBlank
  have ends : trimBy isBlank cs ++ (kept.reverse.takeWhile isBlank).reverse = kept := by
    rw [trimBy, ← List.reverse_append, List.takeWhile_append_dropWhile, List.reverse_reverse]
  refine ⟨⟨cs.takeWhile isBlank, (kept.reverse.takeWhile isBlank).reverse, ?_, ?_, ?_⟩, ?_, ?_⟩
  · rw [ends, List.takeWhile_append_dropWhile]
  · exact fun c member => List.mem_takeWhile_imp member
  · exact fun c member => List.mem_takeWhile_imp (List.mem_reverse.mp member)
  · intro c first
    have whole : kept.head? = some c := by
      rw [← ends, List.head?_append, first]
      rfl
    exact head?_dropWhile isBlank cs c whole
  · intro c last
    refine head?_dropWhile isBlank kept.reverse c ?_
    rw [trimBy, List.getLast?_reverse] at last
    exact last

theorem Trims.eq {cs core : List Char} (trims : Trims cs core) : trimBy isBlank cs = core := by
  obtain ⟨front, back, rfl, before, after⟩ := trims.around
  cases core with
  | nil =>
    have blank : ∀ c ∈ front ++ back, isBlank c = true := fun c member =>
      (List.mem_append.mp member).elim (before c) (after c)
    rw [List.nil_append, trimBy, List.dropWhile_eq_nil_iff.mpr blank]
    rfl
  | cons c rest =>
    have left : (front ++ (c :: rest ++ back)).dropWhile isBlank = c :: rest ++ back :=
      dropWhile_front before trims.first
    have right : (back.reverse ++ (c :: rest).reverse).dropWhile isBlank = (c :: rest).reverse := by
      refine dropWhile_front (fun c member => after c (List.mem_reverse.mp member)) ?_
      rw [List.head?_reverse]
      exact trims.last
    rw [trimBy, left, List.reverse_append, right, List.reverse_reverse]

theorem trims_iff {cs core : List Char} : Trims cs core ↔ trimBy isBlank cs = core :=
  ⟨Trims.eq, fun same => same ▸ trims_trimBy cs⟩

theorem trims_self {cs : List Char} (plain : ∀ c ∈ cs, isBlank c = false) : Trims cs cs :=
  ⟨⟨[], [], by simp, List.forall_mem_nil _, List.forall_mem_nil _⟩,
    fun c first => plain c (List.mem_of_head? first),
    fun c last => plain c (List.mem_of_getLast? last)⟩

theorem allBlank_iff (s : String) : allBlank s = true ↔ trimBy isBlank s.toList = [] := by
  rw [allBlank, List.all_eq_true]
  constructor
  · intro blank
    rw [trimBy, List.dropWhile_eq_nil_iff.mpr blank]
    rfl
  · exact trimBy_eq_nil

end Text

/-- An optional plus sign and a numeral. -/
inductive Counts : List Char → Nat → Prop where
  | plain {ds : List Char} (numeral : Decimal.Numeral ds) : Counts ds (Decimal.magnitude ds)
  | plus {ds : List Char} (numeral : Decimal.Numeral ds) : Counts ('+' :: ds) (Decimal.magnitude ds)

theorem counts_plus_iff {ds : List Char} {n : Nat} :
    Counts ('+' :: ds) n ↔ Decimal.Numeral ds ∧ n = Decimal.magnitude ds := by
  constructor
  · intro counts
    cases counts with
    | plain numeral => exact absurd rfl (numeral.head?_ne rfl)
    | plus numeral => exact ⟨numeral, rfl⟩
  · rintro ⟨numeral, rfl⟩
    exact .plus numeral

theorem counts_plain_iff {text : List Char} {n : Nat} (unsigned : text.head? ≠ some '+') :
    Counts text n ↔ Decimal.Numeral text ∧ n = Decimal.magnitude text := by
  constructor
  · intro counts
    cases counts with
    | plain numeral => exact ⟨numeral, rfl⟩
    | plus numeral => exact absurd rfl unsigned
  · rintro ⟨numeral, rfl⟩
    exact .plain numeral

theorem Counts.unique {text : List Char} {m n : Nat} (counts : Counts text m)
    (also : Counts text n) : n = m := by
  cases counts with
  | plain numeral => exact ((counts_plain_iff (numeral.head?_ne rfl)).mp also).2
  | plus numeral => exact (counts_plus_iff.mp also).2

theorem counts_digits (n : Nat) : Counts (Decimal.digits n) n := by
  have numeral : Decimal.Numeral (Decimal.digits n) :=
    ⟨Decimal.digits_ne_nil n, List.all_eq_true.mp (Decimal.digits_all_digit n)⟩
  have counts := Counts.plain numeral
  rwa [← Decimal.value_eq_magnitude, Decimal.value_digits] at counts

/-- A whole number of 64 bits that is not zero. -/
def PositiveCount (text : List Char) : Prop := ∃ n, Counts text n ∧ 1 ≤ n ∧ n ≤ 2 ^ 64 - 1

/-- An ASCII letter or digit, an underscore or a hyphen. -/
def NameChar (c : Char) : Prop :=
  ('A' ≤ c ∧ c ≤ 'Z') ∨ ('a' ≤ c ∧ c ≤ 'z') ∨ ('0' ≤ c ∧ c ≤ '9') ∨ c = '_' ∨ c = '-'

/-- The values that a setting may have, without the blanks around them. -/
def Setting.Allows : Setting → List Char → Prop
  | .connectionTtl, text => PositiveCount text
  | .sessionMaxAge, text => PositiveCount text
  | .patchQueueCapacity, text => PositiveCount text
  | .cookieName, text => ∀ c ∈ text, NameChar c
  | .clientScript, _ => True

/-- Zero is told from what is no count at all, or too great a one. -/
def ExplainsCount (text : List Char) (reason : InvalidReason) : Prop :=
  (reason = .belowOne ↔ Counts text 0) ∧ (reason = .notPositive ↔ ¬ Counts text 0)

/-- What is said of a value that the setting may not have. -/
def Setting.Explains : Setting → List Char → InvalidReason → Prop
  | .connectionTtl, text, reason => ExplainsCount text reason
  | .sessionMaxAge, text, reason => ExplainsCount text reason
  | .patchQueueCapacity, text, reason => ExplainsCount text reason
  | .cookieName, _, reason => reason = .cookieCharacters
  | .clientScript, _, _ => False

/-- Whoever reads a setting takes just the values that it may have, for what they denote. -/
structure Setting.ReadBy {α : Type} (setting : Setting) (Denotes : List Char → α → Prop)
    (read : String → Except InvalidSetting α) : Prop where
  reads : ∀ raw value, read raw = .ok value →
    setting.Allows (Text.trimBy Text.isBlank raw.toList) ∧
      Denotes (Text.trimBy Text.isBlank raw.toList) value
  reports : ∀ raw error, read raw = .error error → error.setting = setting ∧ error.value = raw ∧
    ¬ setting.Allows (Text.trimBy Text.isBlank raw.toList) ∧
      setting.Explains (Text.trimBy Text.isBlank raw.toList) error.reason

namespace Config

theorem readCount?_eq_some_iff (text : List Char) (n : Nat) :
    readCount? text = some n ↔ Counts text n ∧ n ≤ 2 ^ 64 - 1 := by
  have bounded (ds : List Char) :
      (Decimal.readUnsigned? ds).filter (· ≤ greatestCount) = some n ↔
        (Decimal.Numeral ds ∧ n = Decimal.magnitude ds) ∧ n ≤ 2 ^ 64 - 1 := by
    rw [Option.filter_eq_some_iff, Decimal.readUnsigned?_eq_some_iff, decide_eq_true_eq]
    rfl
  unfold readCount?
  dsimp only
  by_cases signed : text.head? = some '+'
  · obtain ⟨ds, rfl⟩ := List.head?_eq_some_iff.mp signed
    rw [counts_plus_iff, ← bounded]
    rfl
  · rw [counts_plain_iff signed, ← bounded, if_neg (by simpa using signed)]

theorem count_reads (setting : Setting) (raw : String) (n : Nat)
    (read : count setting raw = .ok n) :
    let text := Text.trimBy Text.isBlank raw.toList
    PositiveCount text ∧ Counts text n := by
  intro text
  unfold count at read
  split at read
  · cases read
  · cases read
  · next m nonzero found =>
    obtain rfl := Except.ok.inj read
    obtain ⟨counts, bounded⟩ := (readCount?_eq_some_iff text m).mp found
    exact ⟨⟨m, counts, Nat.one_le_iff_ne_zero.mpr nonzero, bounded⟩, counts⟩

theorem count_reports (setting : Setting) (raw : String) (error : InvalidSetting)
    (refused : count setting raw = .error error) :
    let text := Text.trimBy Text.isBlank raw.toList
    error.setting = setting ∧ error.value = raw ∧ ¬ PositiveCount text ∧
      ExplainsCount text error.reason := by
  intro text
  unfold count at refused
  split at refused
  · next unread =>
    obtain rfl := Except.error.inj refused
    have beyond (n : Nat) (bounded : n ≤ 2 ^ 64 - 1) : ¬ Counts text n := fun counts => by
      have found := (readCount?_eq_some_iff text n).mpr ⟨counts, bounded⟩
      rw [unread] at found
      cases found
    have zero : ¬ Counts text 0 := beyond 0 (Nat.zero_le _)
    exact ⟨rfl, rfl, fun ⟨n, counts, _, bounded⟩ => beyond n bounded counts,
      by simp [ExplainsCount, zero]⟩
  · next found =>
    obtain rfl := Except.error.inj refused
    have zero : Counts text 0 := ((readCount?_eq_some_iff text 0).mp found).1
    refine ⟨rfl, rfl, ?_, by simp [ExplainsCount, zero]⟩
    rintro ⟨n, counts, positive, -⟩
    rw [zero.unique counts] at positive
    cases positive
  · cases refused

theorem isCookieChar_iff (c : Char) : isCookieChar c = true ↔ NameChar c := by
  have whole : isCookieChar c = (c.isUpper || c.isLower || c.isDigit || c == '_' || c == '-') := rfl
  have upper : c.isUpper = true ↔ 'A' ≤ c ∧ c ≤ 'Z' := decide_eq_true_iff
  have lower : c.isLower = true ↔ 'a' ≤ c ∧ c ≤ 'z' :=
    Bool.and_eq_true_iff.trans (and_congr decide_eq_true_iff decide_eq_true_iff)
  have digit : c.isDigit = true ↔ '0' ≤ c ∧ c ≤ '9' :=
    Bool.and_eq_true_iff.trans (and_congr decide_eq_true_iff decide_eq_true_iff)
  simp only [whole, Bool.or_eq_true, upper, lower, digit, beq_iff_eq, NameChar, or_assoc]

theorem isBlank_of_nameChar {c : Char} (plain : NameChar c) : Text.isBlank c = false := by
  have apart : ∀ blank ∈ Text.blanks, (!isCookieChar blank) = true := List.all_eq_true.mp rfl
  cases blank : Text.isBlank c with
  | false => rfl
  | true =>
    have other := apart c (List.contains_iff_mem.mp blank)
    rw [(isCookieChar_iff c).mpr plain] at other
    cases other

theorem cookie_allows_iff (text : List Char) :
    text.all isCookieChar = true ↔ Setting.cookieName.Allows text := by
  simp [Setting.Allows, isCookieChar_iff]

theorem cookie_readBy :
    Setting.ReadBy .cookieName (fun text name => name = String.ofList text) cookie := by
  refine ⟨fun raw name read => ?_, fun raw error refused => ?_⟩
  · unfold cookie Text.trim at read
    dsimp only at read
    split at read
    · next plain =>
      rw [String.toList_ofList, cookie_allows_iff] at plain
      exact ⟨plain, (Except.ok.inj read).symm⟩
    · cases read
  · unfold cookie Text.trim at refused
    dsimp only at refused
    split at refused
    · cases refused
    · next other =>
      rw [String.toList_ofList, cookie_allows_iff] at other
      obtain rfl := Except.error.inj refused
      exact ⟨rfl, rfl, other, rfl⟩

/-- The variable of a setting has a value; without the blanks around it that is the text. -/
structure Given (lookup : String → Option String) (setting : Setting) (raw : String)
    (text : List Char) : Prop where
  found : lookup setting.name = some raw
  trims : Text.Trims raw.toList text
  filled : text ≠ []

/-- The variable of a setting is unset, or there is nothing to it but blanks. -/
def Absent (lookup : String → Option String) (setting : Setting) : Prop :=
  ∀ raw, lookup setting.name = some raw → Text.Trims raw.toList []

theorem given_iff {lookup : String → Option String} {setting : Setting} {raw : String}
    {text : List Char} :
    Given lookup setting raw text ↔
      valueOf lookup setting = some raw ∧ Text.trimBy Text.isBlank raw.toList = text := by
  have blank : (!Text.allBlank raw) = true ↔ Text.trimBy Text.isBlank raw.toList ≠ [] := by
    rw [Bool.not_eq_true', ← Bool.not_eq_true, Text.allBlank_iff]
  rw [valueOf, Option.filter_eq_some_iff, blank]
  constructor
  · rintro ⟨found, trims, filled⟩
    exact ⟨⟨found, trims.eq ▸ filled⟩, trims.eq⟩
  · rintro ⟨⟨found, filled⟩, rfl⟩
    exact ⟨found, Text.trims_trimBy _, filled⟩

theorem absent_iff {lookup : String → Option String} {setting : Setting} :
    Absent lookup setting ↔ valueOf lookup setting = none := by
  simp [Absent, valueOf, Option.filter_eq_none_iff, Text.trims_iff, Text.allBlank_iff]

/-- The variable of a setting has no value but one that the setting may have. -/
def Valid (lookup : String → Option String) (setting : Setting) : Prop :=
  ∀ raw text, Given lookup setting raw text → setting.Allows text

/-- The field of a setting is the default if the variable has no value, and what it denotes if it
has one. -/
structure Reads {α : Type} (lookup : String → Option String) (setting : Setting) (unset : α)
    (Denotes : List Char → α → Prop) (field : α) : Prop where
  absent : Absent lookup setting → field = unset
  given : ∀ raw text, Given lookup setting raw text → Denotes text field

structure ReadFrom (lookup : String → Option String) (config : Config) : Prop where
  connectionTtl :
    Reads lookup .connectionTtl defaults.connectionTtl Counts config.connectionTtl
  sessionMaxAge :
    Reads lookup .sessionMaxAge defaults.sessionMaxAge Counts config.sessionMaxAge
  patchQueueCapacity :
    Reads lookup .patchQueueCapacity defaults.patchQueueCapacity Counts config.patchQueueCapacity
  cookieName :
    Reads lookup .cookieName defaults.cookieName (fun text name => name = String.ofList text)
      config.cookieName
  clientScript :
    Reads lookup .clientScript defaults.clientScript
      (fun text script => script = some (String.ofList text)) config.clientScript

/-- The order in which the settings are read. -/
def order : List Setting :=
  [.connectionTtl, .sessionMaxAge, .patchQueueCapacity, .cookieName, .clientScript]

/-- The error is about the first setting that is invalid, and says why with the value as it was
found. -/
structure Reports (lookup : String → Option String) (error : InvalidSetting) : Prop where
  first : ∃ before after, order = before ++ error.setting :: after ∧
    ∀ earlier ∈ before, Valid lookup earlier
  invalid : ∃ text, Given lookup error.setting error.value text ∧
    ¬ error.setting.Allows text ∧ error.setting.Explains text error.reason

section
variable {α : Type} {lookup : String → Option String} {setting : Setting} {unset : α}
  {Denotes : List Char → α → Prop} {read : String → Except InvalidSetting α}
  (readBy : setting.ReadBy Denotes read)
include readBy

theorem readSetting_ok {value : α} (ok : readSetting lookup setting unset read = .ok value) :
    Valid lookup setting ∧ Reads lookup setting unset Denotes value := by
  unfold readSetting at ok
  split at ok
  · next unvalued =>
    have none {raw : String} {text : List Char} : ¬ Given lookup setting raw text := fun given => by
      rw [(given_iff.mp given).1] at unvalued
      cases unvalued
    exact ⟨fun _ _ given => absurd given none, fun _ => (Except.ok.inj ok).symm,
      fun _ _ given => absurd given none⟩
  · next raw valued =>
    obtain ⟨allowed, denoted⟩ := readBy.reads raw value ok
    have only {other : String} {text : List Char} (given : Given lookup setting other text) :
        Text.trimBy Text.isBlank raw.toList = text := by
      obtain ⟨same, trimmed⟩ := given_iff.mp given
      obtain rfl := Option.some.inj (valued.symm.trans same)
      exact trimmed
    refine ⟨fun _ _ given => only given ▸ allowed, fun absent => ?_,
      fun _ _ given => only given ▸ denoted⟩
    rw [absent_iff.mp absent] at valued
    cases valued

theorem readSetting_error {error : InvalidSetting}
    (failed : readSetting lookup setting unset read = .error error) :
    error.setting = setting ∧ ∃ text, Given lookup error.setting error.value text ∧
      ¬ error.setting.Allows text ∧ error.setting.Explains text error.reason := by
  unfold readSetting at failed
  split at failed
  · cases failed
  · next raw valued =>
    obtain ⟨rfl, rfl, refused, explained⟩ := readBy.reports raw error failed
    exact ⟨rfl, _, given_iff.mpr ⟨valued, rfl⟩, refused, explained⟩

end

theorem connectionTtl_readBy : Setting.ReadBy .connectionTtl Counts (count .connectionTtl) :=
  ⟨count_reads _, count_reports _⟩

theorem sessionMaxAge_readBy : Setting.ReadBy .sessionMaxAge Counts (count .sessionMaxAge) :=
  ⟨count_reads _, count_reports _⟩

theorem patchQueueCapacity_readBy :
    Setting.ReadBy .patchQueueCapacity Counts (count .patchQueueCapacity) :=
  ⟨count_reads _, count_reports _⟩

theorem clientScript_readBy :
    Setting.ReadBy .clientScript (fun text script => script = some (String.ofList text))
      fun raw => .ok (some (Text.trim raw)) :=
  ⟨fun _ _ read => ⟨trivial, (Except.ok.inj read).symm⟩, fun _ _ refused => nomatch refused⟩

theorem ofVariables_ok {lookup : String → Option String} {config : Config}
    (accepted : ofVariables lookup = .ok config) :
    (∀ setting, Valid lookup setting) ∧ config.ReadFrom lookup := by
  unfold ofVariables at accepted
  obtain ⟨ttl, first, accepted⟩ := (bind_eq_ok_iff _ _ _).mp accepted
  obtain ⟨maxAge, second, accepted⟩ := (bind_eq_ok_iff _ _ _).mp accepted
  obtain ⟨capacity, third, accepted⟩ := (bind_eq_ok_iff _ _ _).mp accepted
  obtain ⟨name, fourth, accepted⟩ := (bind_eq_ok_iff _ _ _).mp accepted
  obtain ⟨script, fifth, accepted⟩ := (bind_eq_ok_iff _ _ _).mp accepted
  obtain rfl := Except.ok.inj accepted
  obtain ⟨ttlValid, ttlRead⟩ := readSetting_ok connectionTtl_readBy first
  obtain ⟨maxAgeValid, maxAgeRead⟩ := readSetting_ok sessionMaxAge_readBy second
  obtain ⟨capacityValid, capacityRead⟩ := readSetting_ok patchQueueCapacity_readBy third
  obtain ⟨nameValid, nameRead⟩ := readSetting_ok cookie_readBy fourth
  obtain ⟨scriptValid, scriptRead⟩ := readSetting_ok clientScript_readBy fifth
  refine ⟨fun setting => ?_, ttlRead, maxAgeRead, capacityRead, nameRead, scriptRead⟩
  cases setting with
  | connectionTtl => exact ttlValid
  | sessionMaxAge => exact maxAgeValid
  | patchQueueCapacity => exact capacityValid
  | cookieName => exact nameValid
  | clientScript => exact scriptValid

theorem ofVariables_error {lookup : String → Option String} {error : InvalidSetting}
    (refused : ofVariables lookup = .error error) : Reports lookup error := by
  unfold ofVariables at refused
  obtain failed | ⟨ttl, first, refused⟩ := (bind_eq_error_iff _ _ _).mp refused
  · obtain ⟨at_fault, invalid⟩ := readSetting_error connectionTtl_readBy failed
    exact ⟨⟨[], _, by rw [at_fault]; rfl, List.forall_mem_nil _⟩, invalid⟩
  have ttlValid := (readSetting_ok connectionTtl_readBy first).1
  obtain failed | ⟨maxAge, second, refused⟩ := (bind_eq_error_iff _ _ _).mp refused
  · obtain ⟨at_fault, invalid⟩ := readSetting_error sessionMaxAge_readBy failed
    exact ⟨⟨[.connectionTtl], _, by rw [at_fault]; rfl, by simpa using ttlValid⟩, invalid⟩
  have maxAgeValid := (readSetting_ok sessionMaxAge_readBy second).1
  obtain failed | ⟨capacity, third, refused⟩ := (bind_eq_error_iff _ _ _).mp refused
  · obtain ⟨at_fault, invalid⟩ := readSetting_error patchQueueCapacity_readBy failed
    exact ⟨⟨[.connectionTtl, .sessionMaxAge], _, by rw [at_fault]; rfl,
      by simpa using ⟨ttlValid, maxAgeValid⟩⟩, invalid⟩
  have capacityValid := (readSetting_ok patchQueueCapacity_readBy third).1
  obtain failed | ⟨name, fourth, refused⟩ := (bind_eq_error_iff _ _ _).mp refused
  · obtain ⟨at_fault, invalid⟩ := readSetting_error cookie_readBy failed
    exact ⟨⟨[.connectionTtl, .sessionMaxAge, .patchQueueCapacity], _, by rw [at_fault]; rfl,
      by simpa using ⟨ttlValid, maxAgeValid, capacityValid⟩⟩, invalid⟩
  obtain failed | ⟨script, fifth, refused⟩ := (bind_eq_error_iff _ _ _).mp refused
  · obtain ⟨at_fault, text, -, disallowed, -⟩ := readSetting_error clientScript_readBy failed
    rw [at_fault] at disallowed
    exact absurd trivial disallowed
  · cases refused

/-- A configuration that can be written to variables. -/
structure Printable (config : Config) : Prop where
  connectionTtl : 1 ≤ config.connectionTtl ∧ config.connectionTtl ≤ 2 ^ 64 - 1
  sessionMaxAge : 1 ≤ config.sessionMaxAge ∧ config.sessionMaxAge ≤ 2 ^ 64 - 1
  patchQueueCapacity : 1 ≤ config.patchQueueCapacity ∧ config.patchQueueCapacity ≤ 2 ^ 64 - 1
  cookieName : config.cookieName.toList ≠ [] ∧ ∀ c ∈ config.cookieName.toList, NameChar c
  clientScript : ∀ script, config.clientScript = some script →
    script.toList ≠ [] ∧ Text.Trims script.toList script.toList

/-- What a configuration writes to the variable of each setting. -/
def printed (config : Config) : Setting → Option String
  | .connectionTtl => some (toString config.connectionTtl)
  | .sessionMaxAge => some (toString config.sessionMaxAge)
  | .patchQueueCapacity => some (toString config.patchQueueCapacity)
  | .cookieName => some config.cookieName
  | .clientScript => config.clientScript

theorem given_count {lookup : String → Option String} {setting : Setting} {n : Nat}
    (found : lookup setting.name = some (toString n)) :
    Given lookup setting (toString n) (Decimal.digits n) := by
  have written : (toString n).toList = Decimal.digits n := by simp [Decimal.digits]
  refine ⟨found, ?_, Decimal.digits_ne_nil n⟩
  rw [written]
  exact Text.trims_self fun c member =>
    Text.isBlank_of_isDigit c (List.all_eq_true.mp (Decimal.digits_all_digit n) c member)

/-- A setting with the given value is valid if the value is allowed. -/
theorem valid_of_given {lookup : String → Option String} {setting : Setting} {raw : String}
    {text : List Char} (given : Given lookup setting raw text) (allowed : setting.Allows text) :
    Valid lookup setting := by
  intro other core also
  obtain rfl := Option.some.inj (given.found.symm.trans also.found)
  rw [← also.trims.eq, given.trims.eq]
  exact allowed

theorem ofVariables_printed {lookup : String → Option String} {config : Config}
    (printable : config.Printable)
    (printed : ∀ setting : Setting, lookup setting.name = config.printed setting) :
    ofVariables lookup = .ok config := by
  have ttl : Given lookup .connectionTtl _ _ := given_count (printed .connectionTtl)
  have maxAge : Given lookup .sessionMaxAge _ _ := given_count (printed .sessionMaxAge)
  have capacity : Given lookup .patchQueueCapacity _ _ := given_count (printed .patchQueueCapacity)
  have name : Given lookup .cookieName config.cookieName config.cookieName.toList :=
    ⟨printed .cookieName, Text.trims_self fun c member =>
      isBlank_of_nameChar (printable.cookieName.2 c member),
      printable.cookieName.1⟩
  have valid : ∀ setting, Valid lookup setting := by
    intro setting
    cases setting with
    | connectionTtl => exact valid_of_given ttl ⟨_, counts_digits _, printable.connectionTtl⟩
    | sessionMaxAge => exact valid_of_given maxAge ⟨_, counts_digits _, printable.sessionMaxAge⟩
    | patchQueueCapacity =>
      exact valid_of_given capacity ⟨_, counts_digits _, printable.patchQueueCapacity⟩
    | cookieName => exact valid_of_given name printable.cookieName.2
    | clientScript => exact fun _ _ _ => trivial
  cases made : ofVariables lookup with
  | error error =>
    obtain ⟨text, given, refused, -⟩ := (ofVariables_error made).invalid
    exact absurd (valid error.setting error.value text given) refused
  | ok other =>
    obtain ⟨-, read⟩ := ofVariables_ok made
    have script : other.clientScript = config.clientScript := by
      cases own : config.clientScript with
      | none =>
        refine read.clientScript.absent fun raw found => ?_
        rw [printed, Config.printed, own] at found
        cases found
      | some script =>
        obtain ⟨filled, trims⟩ := printable.clientScript script own
        have found : lookup Setting.clientScript.name = some script := (printed _).trans own
        rw [read.clientScript.given script _ ⟨found, trims, filled⟩, String.ofList_toList]
    have named : other.cookieName = config.cookieName := by
      rw [read.cookieName.given _ _ name, String.ofList_toList]
    congr 1
    calc other
        = ⟨other.connectionTtl, other.sessionMaxAge, other.patchQueueCapacity, other.cookieName,
            other.clientScript⟩ := rfl
      _ = config := by
          rw [(counts_digits _).unique (read.connectionTtl.given _ _ ttl),
            (counts_digits _).unique (read.sessionMaxAge.given _ _ maxAge),
            (counts_digits _).unique (read.patchQueueCapacity.given _ _ capacity), named, script]

end Config

/-- The variables are accepted just when each of them is unset, blank or valid. Then every field is
what its variable denotes, or its default; otherwise the first invalid variable is reported with its
value as it stands, and zero is told from what is no count. A configuration that is written to the
variables is read back. -/
theorem settings_read_exactly (lookup : String → Option String) :
    ((∃ config, Config.ofVariables lookup = .ok config) ↔
      ∀ setting, Config.Valid lookup setting) ∧
    (∀ config, Config.ofVariables lookup = .ok config → config.ReadFrom lookup) ∧
    (∀ error, Config.ofVariables lookup = .error error → Config.Reports lookup error) ∧
    ∀ config : Config, config.Printable →
      (∀ setting : Setting, lookup setting.name = config.printed setting) →
        Config.ofVariables lookup = .ok config := by
  refine ⟨⟨fun ⟨config, accepted⟩ => (Config.ofVariables_ok accepted).1, fun valid => ?_⟩,
    fun config accepted => (Config.ofVariables_ok accepted).2,
    fun error refused => Config.ofVariables_error refused,
    fun config printable printed => Config.ofVariables_printed printable printed⟩
  cases made : Config.ofVariables lookup with
  | ok config => exact ⟨config, rfl⟩
  | error error =>
    obtain ⟨text, given, refused, -⟩ := (Config.ofVariables_error made).invalid
    exact absurd (valid error.setting error.value text given) refused

-- Both the second and the fourth variable are invalid; zero is written with a sign and in full.
example :
    Config.ofVariables (fun name =>
      if name = Setting.connectionTtl.name then some " 007 "
      else if name = Setting.sessionMaxAge.name then some " +00 "
      else if name = Setting.cookieName.name then some "a;b" else none) =
      .error ⟨.sessionMaxAge, " +00 ", .belowOne⟩ := by
  rfl

end LiveTabs
