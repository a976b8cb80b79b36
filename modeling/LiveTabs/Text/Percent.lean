import LiveTabs.Text.Lines
import LiveTabs.Text.Utf8
/-!
Percent-encoded text, and the name-value pairs of a query.
-/
namespace LiveTabs.Text.Percent

def hexValue? (byte : UInt8) : Option UInt8 :=
  if 0x30 ≤ byte ∧ byte ≤ 0x39 then some (byte - 0x30)
  else if 0x41 ≤ byte ∧ byte ≤ 0x46 then some (byte - 0x41 + 10)
  else if 0x61 ≤ byte ∧ byte ≤ 0x66 then some (byte - 0x61 + 10)
  else none

/-- A percent sign that two hexadecimal digits do not follow stands for itself. -/
def decode : Bytes → Bytes
  | [] => []
  | [byte] => [byte]
  | [first, second] => [first, second]
  | byte :: high :: low :: rest =>
    if byte = 0x25 then
      match hexValue? high, hexValue? low with
      | some h, some l => (16 * h + l) :: decode rest
      | _, _ => byte :: decode (high :: low :: rest)
    else byte :: decode (high :: low :: rest)

/-- In a query a plus sign is a space. -/
def decodeForm (cs : List Char) : String :=
  Utf8.decode (decode (Utf8.encodeChars (cs.map fun c => if c = '+' then ' ' else c)))

/-- A piece of a query: a name and, after the first equals sign, a value. -/
def pair (piece : List Char) : String × String :=
  (decodeForm (piece.takeWhile (· != '=')), decodeForm ((piece.dropWhile (· != '=')).drop 1))

/-- The pairs of a query in order; empty pieces count for nothing. -/
def pairs (query : List Char) : List (String × String) :=
  ((splitAt '&' query).filter fun piece => !piece.isEmpty).map pair

end LiveTabs.Text.Percent
