import LiveTabs.Json
/-!
The tokens of JSON text. A word is an unbroken run of other characters, so a literal or a number
always is one word. The scanner looks at one character at a time, and everything it must remember
is in its mode.
-/
namespace LiveTabs.Json

inductive Token where
  | openArray
  | closeArray
  | openObject
  | closeObject
  | comma
  | colon
  | str (s : String)
  | word (cs : List Char)
  deriving DecidableEq

/-- Where the scanner stands. Characters read so far are kept in reverse. A high surrogate waits
for the escaped low one that must follow at once. -/
inductive Mode where
  | between
  | inWord (cs : List Char)
  | inString (cs : List Char)
  | escaped (cs : List Char) (high : Option Nat)
  | inHex (cs : List Char) (high : Option Nat) (missing : Nat) (unit : Nat)
  | afterHigh (cs : List Char) (high : Nat)

def isBlank (c : Char) : Bool := c == ' ' || c == '\t' || c == '\n' || c == '\r'

def punctuation? : Char → Option Token
  | '[' => some .openArray
  | ']' => some .closeArray
  | '{' => some .openObject
  | '}' => some .closeObject
  | ',' => some .comma
  | ':' => some .colon
  | _ => none

def hexValue? (c : Char) : Option Nat :=
  if '0' ≤ c ∧ c ≤ '9' then some (c.toNat - '0'.toNat)
  else if 'a' ≤ c ∧ c ≤ 'f' then some (c.toNat - 'a'.toNat + 10)
  else if 'A' ≤ c ∧ c ≤ 'F' then some (c.toNat - 'A'.toNat + 10)
  else none

def unescape? : Char → Option Char
  | '"' => some '"'
  | '\\' => some '\\'
  | '/' => some '/'
  | 'b' => some '\x08'
  | 'f' => some '\x0c'
  | 'n' => some '\n'
  | 'r' => some '\r'
  | 't' => some '\t'
  | _ => none

/-- A complete escaped unit of 16 bits: a character, or half of one. -/
def afterUnit (cs : List Char) (high : Option Nat) (unit : Nat) : Option Mode :=
  match high with
  | some first =>
    if 0xDC00 ≤ unit ∧ unit ≤ 0xDFFF then
      some (.inString (Char.ofNat (0x10000 + (first - 0xD800) * 0x400 + (unit - 0xDC00)) :: cs))
    else none
  | none =>
    if 0xD800 ≤ unit ∧ unit ≤ 0xDBFF then some (.afterHigh cs unit)
    else if 0xDC00 ≤ unit ∧ unit ≤ 0xDFFF then none
    else some (.inString (Char.ofNat unit :: cs))

/-- A character outside strings: what it completes, and where the scanner stands after it. -/
def begin (c : Char) : Mode × List Token :=
  if c = '"' then (.inString [], [])
  else if isBlank c then (.between, [])
  else
    match punctuation? c with
    | some token => (.between, [token])
    | none => (.inWord [c], [])

def scanChar (mode : Mode) (c : Char) : Option (Mode × List Token) :=
  match mode with
  | .between => some (begin c)
  | .inWord cs =>
    match begin c with
    | (.inWord _, _) => some (.inWord (c :: cs), [])
    | (next, tokens) => some (next, .word cs.reverse :: tokens)
  | .inString cs =>
    if c = '"' then some (.between, [.str (String.ofList cs.reverse)])
    else if c = '\\' then some (.escaped cs none, [])
    else if c.toNat < 0x20 then none
    else some (.inString (c :: cs), [])
  | .escaped cs high =>
    if c = 'u' then some (.inHex cs high 4 0, [])
    else
      match high, unescape? c with
      | none, some plain => some (.inString (plain :: cs), [])
      | _, _ => none
  | .inHex cs high missing unit =>
    match hexValue? c with
    | none => none
    | some digit =>
      if missing ≤ 1 then (afterUnit cs high (16 * unit + digit)).map (·, [])
      else some (.inHex cs high (missing - 1) (16 * unit + digit), [])
  | .afterHigh cs high => if c = '\\' then some (.escaped cs (some high), []) else none

def scanFrom (mode : Mode) : List Char → Option (List Token)
  | [] =>
    match mode with
    | .between => some []
    | .inWord cs => some [.word cs.reverse]
    | _ => none
  | c :: rest =>
    match scanChar mode c with
    | none => none
    | some (next, tokens) => (scanFrom next rest).map (tokens ++ ·)

/-- The tokens of a text; none where a string is malformed or left open. -/
def scan (text : List Char) : Option (List Token) := scanFrom .between text

end LiveTabs.Json
