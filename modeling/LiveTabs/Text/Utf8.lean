/-!
UTF-8 as bytes. `decode` reads any bytes: each maximal part that begins no character, or breaks one
off, becomes one replacement character. The decoder looks at one byte at a time and remembers
only the character it is in.
-/
namespace LiveTabs

abbrev Bytes := List UInt8

namespace Text.Utf8

def replacement : Char := '\ufffd'

/-- A character begun but not complete: its bits so far, how many bytes are missing, and the range
of the next one. -/
structure Pending where
  bits : Nat
  missing : Nat
  least : Nat
  greatest : Nat
  deriving DecidableEq

/-- A byte that stands first: the characters it completes, and what it leaves pending. The range of
the second byte keeps out long forms, surrogates and what lies beyond the last character. -/
def lead (byte : Nat) : List Char × Option Pending :=
  if byte < 0x80 then ([Char.ofNat byte], none)
  else if byte < 0xC2 then ([replacement], none)
  else if byte < 0xE0 then ([], some ⟨byte - 0xC0, 1, 0x80, 0xBF⟩)
  else if byte = 0xE0 then ([], some ⟨0, 2, 0xA0, 0xBF⟩)
  else if byte = 0xED then ([], some ⟨0xD, 2, 0x80, 0x9F⟩)
  else if byte < 0xF0 then ([], some ⟨byte - 0xE0, 2, 0x80, 0xBF⟩)
  else if byte = 0xF0 then ([], some ⟨0, 3, 0x90, 0xBF⟩)
  else if byte < 0xF4 then ([], some ⟨byte - 0xF0, 3, 0x80, 0xBF⟩)
  else if byte = 0xF4 then ([], some ⟨4, 3, 0x80, 0x8F⟩)
  else ([replacement], none)

def readByte (pending : Option Pending) (byte : Nat) : List Char × Option Pending :=
  match pending with
  | none => lead byte
  | some part =>
    if part.least ≤ byte ∧ byte ≤ part.greatest then
      let bits := part.bits * 64 + (byte - 0x80)
      if part.missing ≤ 1 then ([Char.ofNat bits], none)
      else ([], some ⟨bits, part.missing - 1, 0x80, 0xBF⟩)
    else
      let next := lead byte
      (replacement :: next.1, next.2)

def decodeFrom (pending : Option Pending) : Bytes → List Char
  | [] => if pending.isSome then [replacement] else []
  | byte :: rest =>
    let next := readByte pending byte.toNat
    next.1 ++ decodeFrom next.2 rest

def decodeChars (bytes : Bytes) : List Char := decodeFrom none bytes

def decode (bytes : Bytes) : String := String.ofList (decodeChars bytes)

def encodeChars (cs : List Char) : Bytes := cs.flatMap String.utf8EncodeChar

def encode (s : String) : Bytes := encodeChars s.toList

/-- The text, if the bytes are its encoding. -/
def decodeExact? (bytes : Bytes) : Option String :=
  if encode (decode bytes) = bytes then some (decode bytes) else none

end Text.Utf8
end LiveTabs
