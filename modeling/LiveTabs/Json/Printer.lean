import LiveTabs.Json.Number
/-!
The compact text of a JSON value: no blanks, and in strings only what must be escaped is.
-/
namespace LiveTabs.Json

def hexDigit (n : Nat) : Char := Nat.digitChar n

/-- A quote, a backslash and the characters below a space are escaped, five of the latter by a
letter. -/
def escapeChar (c : Char) : List Char :=
  if c = '"' then ['\\', '"']
  else if c = '\\' then ['\\', '\\']
  else if c = '\x08' then ['\\', 'b']
  else if c = '\x0c' then ['\\', 'f']
  else if c = '\n' then ['\\', 'n']
  else if c = '\r' then ['\\', 'r']
  else if c = '\t' then ['\\', 't']
  else if c.toNat < 0x20 then
    ['\\', 'u', '0', '0', hexDigit (c.toNat / 16), hexDigit (c.toNat % 16)]
  else [c]

def quoted (s : String) : List Char := '"' :: s.toList.flatMap escapeChar ++ ['"']

mutual

def write : Json → List Char
  | .null => ['n', 'u', 'l', 'l']
  | .bool true => ['t', 'r', 'u', 'e']
  | .bool false => ['f', 'a', 'l', 's', 'e']
  | .int n => Decimal.ofInt n
  | .float x => writeFloat x
  | .str s => quoted s
  | .arr items => '[' :: writeItems items ++ [']']
  | .obj members => '{' :: writeMembers members ++ ['}']

def writeItems : List Json → List Char
  | [] => []
  | [item] => write item
  | item :: rest => write item ++ ',' :: writeItems rest

def writeMembers : List (String × Json) → List Char
  | [] => []
  | [(key, value)] => quoted key ++ ':' :: write value
  | (key, value) :: rest => quoted key ++ ':' :: write value ++ ',' :: writeMembers rest

end

def text (value : Json) : String := String.ofList (write value)

/-- A value as it is shown to a reader: a string as it is, anything else as its text. -/
def shown : Json → String
  | .str s => s
  | value => value.text

end LiveTabs.Json
