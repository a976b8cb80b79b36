import LiveTabs.Json.Number
import LiveTabs.Json.Token
/-!
Which texts denote a value, with blanks between tokens, with every way to escape a character in a
string, and with members in any order, of which the last with a key stands. It is said here without
a scanner or a parser. Arrays and objects are counted by the levels that they may still take.
-/
namespace LiveTabs.Json

def Blanks (cs : List Char) : Prop := ∀ c ∈ cs, c = ' ' ∨ c = '\t' ∨ c = '\n' ∨ c = '\r'

/-- The letters that may follow a backslash, with the characters that they stand for. -/
def escapes : List (Char × Char) :=
  [('"', '"'), ('\\', '\\'), ('/', '/'), ('b', '\x08'), ('f', '\x0c'), ('n', '\n'), ('r', '\r'),
    ('t', '\t')]

def hexDigits : List Char :=
  ['0', '1', '2', '3', '4', '5', '6', '7', '8', '9', 'a', 'b', 'c', 'd', 'e', 'f']

def upperHexDigits : List Char :=
  ['0', '1', '2', '3', '4', '5', '6', '7', '8', '9', 'A', 'B', 'C', 'D', 'E', 'F']

def HexDigit (c : Char) (n : Nat) : Prop := hexDigits[n]? = some c ∨ upperHexDigits[n]? = some c

/-- Four digits for a unit of 16 bits. -/
inductive HexUnit : List Char → Nat → Prop
  | mk {a b c d : Char} {first second third fourth : Nat} (one : HexDigit a first)
    (two : HexDigit b second) (three : HexDigit c third) (four : HexDigit d fourth) :
    HexUnit [a, b, c, d] (((first * 16 + second) * 16 + third) * 16 + fourth)

/-- What may stand between the quotes of a string. A character beyond 16 bits is escaped in two
halves, which mean nothing alone. -/
inductive StringText : List Char → List Char → Prop
  | nil : StringText [] []
  | plain {c : Char} {cs s : List Char} (unquoted : c ≠ '"') (unescaped : c ≠ '\\')
    (printed : 0x20 ≤ c.toNat) (rest : StringText cs s) : StringText (c :: cs) (c :: s)
  | short {letter c : Char} {cs s : List Char} (listed : (letter, c) ∈ escapes)
    (rest : StringText cs s) : StringText ('\\' :: letter :: cs) (c :: s)
  | unit {digits cs s : List Char} {unit : Nat} (number : HexUnit digits unit)
    (whole : unit < 0xD800 ∨ 0xDFFF < unit) (rest : StringText cs s) :
    StringText ('\\' :: 'u' :: (digits ++ cs)) (Char.ofNat unit :: s)
  | pair {digits others cs s : List Char} {high low : Nat} (first : HexUnit digits high)
    (second : HexUnit others low) (highHalf : 0xD800 ≤ high ∧ high ≤ 0xDBFF)
    (lowHalf : 0xDC00 ≤ low ∧ low ≤ 0xDFFF) (rest : StringText cs s) :
    StringText ('\\' :: 'u' :: (digits ++ '\\' :: 'u' :: (others ++ cs)))
      (Char.ofNat (0x10000 + (high - 0xD800) * 0x400 + (low - 0xDC00)) :: s)

mutual

/-- A whole number of 64 bits is denoted by its digits, any other number by whatever is read as it. -/
inductive ValueText : Nat → List Char → Json → Prop
  | null {levels : Nat} : ValueText levels ['n', 'u', 'l', 'l'] .null
  | true {levels : Nat} : ValueText levels ['t', 'r', 'u', 'e'] (.bool true)
  | false {levels : Nat} : ValueText levels ['f', 'a', 'l', 's', 'e'] (.bool false)
  | int {levels : Nat} {n : Int} (least : leastInt ≤ n) (greatest : n ≤ greatestInt) :
    ValueText levels (Decimal.ofInt n) (.int n)
  | number {levels : Nat} {cs : List Char} {value : Json} (reads : readNumber? cs = some value) :
    ValueText levels cs value
  | str {levels : Nat} {cs s : List Char} (spelled : StringText cs s) :
    ValueText levels ('"' :: (cs ++ ['"'])) (.str (String.ofList s))
  | noItems {levels : Nat} {blanks : List Char} (blank : Blanks blanks) :
    ValueText (levels + 1) ('[' :: (blanks ++ [']'])) (.arr [])
  | arr {levels : Nat} {cs : List Char} {items : List Json} (inside : ItemsText levels cs items) :
    ValueText (levels + 1) ('[' :: (cs ++ [']'])) (.arr items)
  | noMembers {levels : Nat} {blanks : List Char} (blank : Blanks blanks) :
    ValueText (levels + 1) ('{' :: (blanks ++ ['}'])) (.obj [])
  | obj {levels : Nat} {cs : List Char} {members : List (String × Json)}
    (inside : MembersText levels cs members) :
    ValueText (levels + 1) ('{' :: (cs ++ ['}'])) (ofMembers (KeyMap.ofList members))

inductive ItemsText : Nat → List Char → List Json → Prop
  | last {levels : Nat} {before cs after : List Char} {item : Json} (front : Blanks before)
    (value : ValueText levels cs item) (back : Blanks after) :
    ItemsText levels (before ++ (cs ++ after)) [item]
  | more {levels : Nat} {before cs after others : List Char} {item : Json} {rest : List Json}
    (front : Blanks before) (value : ValueText levels cs item) (back : Blanks after)
    (later : ItemsText levels others rest) :
    ItemsText levels (before ++ (cs ++ after) ++ ',' :: others) (item :: rest)

/-- A member is a string, a colon and a value. -/
inductive MemberText : Nat → List Char → String × Json → Prop
  | mk {levels : Nat} {before key between cs after : List Char} {s : List Char} {item : Json}
    {behind : List Char} (front : Blanks before) (named : StringText key s) (apart : Blanks between)
    (back : Blanks behind) (value : ValueText levels cs item) (last : Blanks after) :
    MemberText levels
      (before ++ '"' :: (key ++ '"' :: (between ++ ':' :: (behind ++ (cs ++ after)))))
      (String.ofList s, item)

inductive MembersText : Nat → List Char → List (String × Json) → Prop
  | last {levels : Nat} {cs : List Char} {member : String × Json}
    (only : MemberText levels cs member) : MembersText levels cs [member]
  | more {levels : Nat} {cs others : List Char} {member : String × Json}
    {rest : List (String × Json)} (first : MemberText levels cs member)
    (later : MembersText levels others rest) :
    MembersText levels (cs ++ ',' :: others) (member :: rest)

end

end LiveTabs.Json
