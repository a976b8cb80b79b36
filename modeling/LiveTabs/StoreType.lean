import LiveTabs.Binary64
import LiveTabs.Json
import LiveTabs.Scope
/-!
The types at which states and signals are declared, and the values of each.
-/
namespace LiveTabs

inductive IntKind where
  | int64
  | nat64
  | int32
  | nat32
  | int8
  | nat8
  deriving DecidableEq

namespace IntKind

def least : IntKind → Int
  | .int64 => -9223372036854775808
  | .int32 => -2147483648
  | .int8 => -128
  | .nat64 | .nat32 | .nat8 => 0

def greatest : IntKind → Int
  | .int64 => 9223372036854775807
  | .nat64 => 18446744073709551615
  | .int32 => 2147483647
  | .nat32 => 4294967295
  | .int8 => 127
  | .nat8 => 255

end IntKind

/-- A whole number within the range of its kind. -/
structure Ranged (kind : IntKind) where
  val : Int
  least_le : kind.least ≤ val
  le_greatest : val ≤ kind.greatest
  deriving DecidableEq

namespace Ranged

def ofInt? (kind : IntKind) (n : Int) : Option (Ranged kind) :=
  if inside : kind.least ≤ n ∧ n ≤ kind.greatest then some ⟨n, inside.1, inside.2⟩ else none

@[simp] theorem ofInt?_val {kind : IntKind} (n : Ranged kind) : ofInt? kind n.val = some n := by
  simp [ofInt?, n.least_le, n.le_greatest]

end Ranged

structure Todo where
  title : String
  done : Bool
  deriving DecidableEq

/-- `picky` is a whole number that is read like any other but written only if it is not
negative. -/
inductive StoreType where
  | int (kind : IntKind)
  | float
  | bool
  | string
  | char
  | optionalInt
  | optionalString
  | intList
  | intMap
  | pair
  | todo
  | scope
  | picky
  | json
  deriving DecidableEq

namespace StoreType

abbrev Carrier : StoreType → Type
  | .int kind => Ranged kind
  | .float => Binary64
  | .bool => Bool
  | .string => String
  | .char => Char
  | .optionalInt => Option (Ranged .int64)
  | .optionalString => Option String
  | .intList => List (Ranged .int64)
  | .intMap => KeyMap (Ranged .int64)
  | .pair => Ranged .int64 × String
  | .todo => Todo
  | .scope => Scope
  | .picky => Ranged .int64
  | .json => Json

end StoreType
end LiveTabs
