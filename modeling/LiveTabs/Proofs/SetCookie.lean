import LiveTabs.Http.Cookie
/-!
The header that sets the session cookie, as a browser reads it: the cookie itself up to the first
semicolon, and attributes after that.
-/
namespace LiveTabs

namespace Text

theorem consLine_append (c : Char) (pieces others : List (List Char)) (some : pieces ≠ []) :
    consLine c (pieces ++ others) = consLine c pieces ++ others := by
  cases pieces with
  | nil => exact absurd rfl some
  | cons piece rest => rfl

theorem splitAt_append (separator : Char) (first rest : List Char) :
    splitAt separator (first ++ separator :: rest) =
      splitAt separator first ++ splitAt separator rest := by
  induction first with
  | nil => simp [splitAt]
  | cons c others ih =>
    by_cases here : c = separator
    · simp [splitAt, here, ih]
    · simp [splitAt, here, ih, consLine_append c _ _ (splitAt_ne_nil separator others)]

theorem splitAt_unseparated (separator : Char) (cs : List Char)
    (apart : ∀ c ∈ cs, c ≠ separator) : splitAt separator cs = [cs] := by
  induction cs with
  | nil => rfl
  | cons c rest ih =>
    have tail := ih fun other member => apart other (List.mem_cons_of_mem c member)
    simp [splitAt, apart c List.mem_cons_self, tail, consLine]

theorem isBlank_of_isDigit (c : Char) (digit : c.isDigit = true) : isBlank c = false := by
  have apart : ∀ blank ∈ blanks, (!blank.isDigit) = true := List.all_eq_true.mp rfl
  cases blank : isBlank c with
  | false => rfl
  | true =>
    have undigit := apart c (List.contains_iff_mem.mp blank)
    rw [digit] at undigit
    nomatch undigit

theorem trimBy_unblank (drop : Char → Bool) (cs : List Char) (kept : ∀ c ∈ cs, drop c = false) :
    trimBy drop cs = cs := by
  have front (other : List Char) (same : ∀ c ∈ other, drop c = false) :
      other.dropWhile drop = other := by
    cases other with
    | nil => rfl
    | cons c rest => simp [same c List.mem_cons_self]
  rw [trimBy, front cs kept, front cs.reverse fun c member => kept c (List.mem_reverse.mp member),
    List.reverse_reverse]

end Text

namespace Http

/-- The seconds that an attribute gives the cookie to live, if it is the attribute for that. -/
def lifetime? (field : List Char) : Option Nat :=
  match nameAndValue? (Text.trimBy Text.isBlank field) with
  | none => none
  | some (name, value) =>
    if name.map Char.toLower = "max-age".toList then Decimal.readUnsigned? value else none

/-- The last attribute that gives a lifetime counts. -/
def maxAge? (header : String) : Option Nat :=
  (((Text.splitAt ';' header.toList).drop 1).filterMap lifetime?).getLast?

theorem lifetime?_maxAge (n : Nat) :
    lifetime? (" Max-Age=".toList ++ Decimal.digits n) = some n := by
  have digit (c : Char) (member : c ∈ Decimal.digits n) : c.isDigit = true :=
    List.all_eq_true.mp (Decimal.digits_all_digit n) c member
  have unblank : ∀ c ∈ "Max-Age=".toList ++ Decimal.digits n, Text.isBlank c = false := by
    intro c member
    rcases List.mem_append.mp member with named | counted
    · have plain : ∀ c ∈ "Max-Age=".toList, (!Text.isBlank c) = true := List.all_eq_true.mp rfl
      exact (Bool.not_eq_true' _).mp (plain c named)
    · exact Text.isBlank_of_isDigit c (digit c counted)
  have trimmed : Text.trimBy Text.isBlank (" Max-Age=".toList ++ Decimal.digits n) =
      "Max-Age=".toList ++ Decimal.digits n := Text.trimBy_unblank Text.isBlank _ unblank
  have parted : nameAndValue? ("Max-Age=".toList ++ Decimal.digits n) =
      some ("Max-Age".toList, Decimal.digits n) := rfl
  rw [lifetime?, trimmed, parted]
  exact Decimal.readUnsigned?_digits n

/-- The session cookie lives for the configured time, whatever its name and the session are. -/
theorem maxAge?_cookieFor (config : Config) (session : String) :
    maxAge? (cookieFor config session) = some config.sessionMaxAge := by
  let n := config.sessionMaxAge
  let name := (config.cookieName ++ "=" ++ session).toList
  have written : (cookieFor config session).toList =
      name ++ ';' :: (" Path=/".toList ++ ';' :: ((" Max-Age=".toList ++ Decimal.digits n) ++
        ';' :: (" HttpOnly".toList ++ ';' :: " SameSite=Lax".toList))) := by
    simp [cookieFor, name, n, Decimal.digits]
  have unseparated : ∀ c ∈ " Max-Age=".toList ++ Decimal.digits n, c ≠ ';' := by
    intro c member
    rcases List.mem_append.mp member with named | counted
    · have apart : ∀ c ∈ " Max-Age=".toList, (c != ';') = true := List.all_eq_true.mp rfl
      exact bne_iff_ne.mp (apart c named)
    · rintro rfl
      have digit := List.all_eq_true.mp (Decimal.digits_all_digit n) ';' counted
      exact absurd digit (by decide)
  have pieces : Text.splitAt ';' (cookieFor config session).toList =
      Text.splitAt ';' name ++ [" Path=/".toList, " Max-Age=".toList ++ Decimal.digits n,
        " HttpOnly".toList, " SameSite=Lax".toList] := by
    rw [written, Text.splitAt_append, Text.splitAt_append, Text.splitAt_append,
      Text.splitAt_append, Text.splitAt_unseparated ';' _ unseparated]
    rfl
  have path : lifetime? " Path=/".toList = none := rfl
  have httpOnly : lifetime? " HttpOnly".toList = none := rfl
  have sameSite : lifetime? " SameSite=Lax".toList = none := rfl
  cases parted : Text.splitAt ';' name with
  | nil => exact absurd parted (Text.splitAt_ne_nil ';' name)
  | cons first others =>
    rw [maxAge?, pieces, parted]
    simp only [List.cons_append, List.drop_succ_cons, List.drop_zero, List.filterMap_append,
      List.filterMap_cons, List.filterMap_nil, path, httpOnly, sameSite, lifetime?_maxAge]
    exact List.getLast?_concat

end Http
end LiveTabs
