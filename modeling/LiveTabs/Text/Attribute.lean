/-!
Text inside a quoted attribute of markup. Four characters are written as entities; reading takes
the four entities back and leaves everything else as it stands.
-/
namespace LiveTabs.Text.Attribute

def escapeChar (c : Char) : List Char :=
  if c = '&' then ['&', 'a', 'm', 'p', ';']
  else if c = '"' then ['&', 'q', 'u', 'o', 't', ';']
  else if c = '<' then ['&', 'l', 't', ';']
  else if c = '>' then ['&', 'g', 't', ';']
  else [c]

def escapeChars (cs : List Char) : List Char := cs.flatMap escapeChar

/-- What is written as an entity. -/
def isSpecial (c : Char) : Bool := c == '&' || c == '"' || c == '<' || c == '>'

/-- Text without any of the four characters is taken as it stands. -/
def escape (s : String) : String :=
  if s.toList.any isSpecial then String.ofList (escapeChars s.toList) else s

def unescapeChars : List Char → List Char
  | '&' :: 'a' :: 'm' :: 'p' :: ';' :: rest => '&' :: unescapeChars rest
  | '&' :: 'q' :: 'u' :: 'o' :: 't' :: ';' :: rest => '"' :: unescapeChars rest
  | '&' :: 'l' :: 't' :: ';' :: rest => '<' :: unescapeChars rest
  | '&' :: 'g' :: 't' :: ';' :: rest => '>' :: unescapeChars rest
  | c :: rest => c :: unescapeChars rest
  | [] => []

theorem unescape_escape (cs : List Char) : unescapeChars (escapeChars cs) = cs := by
  induction cs with
  | nil => rfl
  | cons c rest ih =>
    simp only [escapeChars, List.flatMap_cons] at ih ⊢
    by_cases amp : c = '&'
    · subst amp
      simp [escapeChar, unescapeChars, ih]
    by_cases quot : c = '"'
    · subst quot
      simp [escapeChar, unescapeChars, ih]
    by_cases lt : c = '<'
    · subst lt
      simp [escapeChar, unescapeChars, ih]
    by_cases gt : c = '>'
    · subst gt
      simp [escapeChar, unescapeChars, ih]
    simp [escapeChar, unescapeChars, amp, quot, lt, gt, ih]

theorem escapeChar_plain {c : Char} (plain : isSpecial c = false) : escapeChar c = [c] := by
  simp only [isSpecial, Bool.or_eq_false_iff, beq_eq_false_iff_ne] at plain
  simp [escapeChar, plain]

theorem escapeChars_plain {cs : List Char} (plain : cs.any isSpecial = false) :
    escapeChars cs = cs := by
  induction cs with
  | nil => rfl
  | cons c rest ih =>
    rw [List.any_cons, Bool.or_eq_false_iff] at plain
    simp only [escapeChars] at ih
    rw [escapeChars, List.flatMap_cons, escapeChar_plain plain.1, ih plain.2]
    rfl

/-- Text that is taken as it stands would be written just so. -/
theorem escape_eq (s : String) : escape s = String.ofList (escapeChars s.toList) := by
  unfold escape
  split
  · rfl
  · next plain => rw [escapeChars_plain (by simpa using plain), String.ofList_toList]

end LiveTabs.Text.Attribute
