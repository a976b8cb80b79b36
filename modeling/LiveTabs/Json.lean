import LiveTabs.Binary64
import LiveTabs.KeyMap
/-!
JSON values. Whole numbers and floating-point numbers are told apart, since a reader may take the
one and refuse the other. The members of an object stand in key order.
-/
namespace LiveTabs

inductive Json where
  | null
  | bool (b : Bool)
  | int (n : Int)
  | float (x : Binary64)
  | str (s : String)
  | arr (items : List Json)
  | obj (members : List (String × Json))

namespace Json

instance : Inhabited Json := ⟨.null⟩

/-- The whole numbers that a JSON number holds as such: the signed and the unsigned ones of 64
bits together. All others are floating-point numbers. -/
def leastInt : Int := -9223372036854775808

def greatestInt : Int := 18446744073709551615

def ofMembers (members : KeyMap Json) : Json := .obj members.entries

def members? : Json → Option (KeyMap Json)
  | .obj members => some (KeyMap.ofList members)
  | _ => none

end Json
end LiveTabs
