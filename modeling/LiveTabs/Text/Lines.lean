/-!
Text in lines. A carriage return, a line feed, and the two in this order each end a line.
-/
namespace LiveTabs.Text

/-- Puts a character in front of the first line. -/
def consLine (c : Char) : List (List Char) → List (List Char)
  | [] => [[c]]
  | line :: rest => (c :: line) :: rest

def lines : List Char → List (List Char)
  | [] => [[]]
  | '\r' :: '\n' :: rest => [] :: lines rest
  | c :: rest => if c = '\r' ∨ c = '\n' then [] :: lines rest else consLine c (lines rest)

/-- The pieces between the separators; one piece more than there are separators. -/
def splitAt (separator : Char) : List Char → List (List Char)
  | [] => [[]]
  | c :: rest =>
    if c = separator then [] :: splitAt separator rest else consLine c (splitAt separator rest)

def joinWith (separator : Char) : List (List Char) → List Char
  | [] => []
  | [piece] => piece
  | piece :: rest => piece ++ separator :: joinWith separator rest

theorem splitAt_ne_nil (separator : Char) (cs : List Char) : splitAt separator cs ≠ [] := by
  cases cs with
  | nil => simp [splitAt]
  | cons c rest =>
    simp only [splitAt]
    split
    · simp
    · cases splitAt separator rest <;> simp [consLine]

/-- Splitting and joining again gives the text back. -/
theorem joinWith_splitAt (separator : Char) (cs : List Char) :
    joinWith separator (splitAt separator cs) = cs := by
  induction cs with
  | nil => rfl
  | cons c rest ih =>
    cases found : splitAt separator rest with
    | nil => exact absurd found (splitAt_ne_nil separator rest)
    | cons piece others =>
      rw [found] at ih
      by_cases hit : c = separator
      · simp [splitAt, hit, found, joinWith, ih]
      · cases others with
        | nil => simpa [splitAt, hit, found, consLine, joinWith] using ih
        | cons next more => simpa [splitAt, hit, found, consLine, joinWith] using ih

end LiveTabs.Text
