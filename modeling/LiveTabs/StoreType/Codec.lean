import LiveTabs.StoreType
/-!
Values as JSON. `encode` writes a value, `decode` reads one exactly and refuses any JSON that is
not a written form of the type.
-/
namespace LiveTabs

/-- A value that its type does not let be written. -/
inductive EncodeError where
  | refused (n : Int)
  deriving DecidableEq

def EncodeError.message : EncodeError → String
  | .refused n => "picky refuses " ++ toString n

namespace StoreType

def decodeInt (kind : IntKind) : Json → Option (Ranged kind)
  | .int n => Ranged.ofInt? kind n
  | _ => none

def decodeString : Json → Option String
  | .str s => some s
  | _ => none

def decodeBool : Json → Option Bool
  | .bool b => some b
  | _ => none

/-- Any number is read as a floating-point one, a whole number as the nearest. -/
def decodeFloat : Json → Option Binary64
  | .float x => some x
  | .int n => Binary64.ofInt n
  | _ => none

def decodeChar : Json → Option Char
  | .str s =>
    match s.toList with
    | [c] => some c
    | _ => none
  | _ => none

/-- Null is the absent value. -/
def decodeOptional {α : Type} (decode : Json → Option α) : Json → Option (Option α)
  | .null => some none
  | value => (decode value).map some

def decodeList {α : Type} (decode : Json → Option α) : Json → Option (List α)
  | .arr items => items.mapM decode
  | _ => none

def decodeMembers {α : Type} (decode : Json → Option α) (members : List (String × Json)) :
    Option (KeyMap α) :=
  (members.mapM fun member => (decode member.2).map fun value => (member.1, value)).map
    KeyMap.ofList

def decodeMap {α : Type} (decode : Json → Option α) : Json → Option (KeyMap α)
  | .obj members => decodeMembers decode members
  | _ => none

def decodePair : Json → Option (Ranged .int64 × String)
  | .arr [first, second] =>
    (decodeInt .int64 first).bind fun n => (decodeString second).map fun s => (n, s)
  | _ => none

def decodeFields (title done : Json) : Option Todo :=
  (decodeString title).bind fun text => (decodeBool done).map fun flag => ⟨text, flag⟩

/-- An object with both fields, others being ignored, or the two in order in an array. -/
def decodeTodo : Json → Option Todo
  | .obj members =>
    (KeyMap.lookup "title" members).bind fun title =>
      (KeyMap.lookup "done" members).bind fun done => decodeFields title done
  | .arr [title, done] => decodeFields title done
  | _ => none

/-- The name of a scope, alone or as the only key of an object whose value is null. -/
def decodeScope : Json → Option Scope
  | .str name => Scope.ofName? name
  | .obj [(name, .null)] => Scope.ofName? name
  | _ => none

def decode : (type : StoreType) → Json → Option type.Carrier
  | .int kind => decodeInt kind
  | .float => decodeFloat
  | .bool => decodeBool
  | .string => decodeString
  | .char => decodeChar
  | .optionalInt => decodeOptional (decodeInt .int64)
  | .optionalString => decodeOptional decodeString
  | .intList => decodeList (decodeInt .int64)
  | .intMap => decodeMap (decodeInt .int64)
  | .pair => decodePair
  | .todo => decodeTodo
  | .scope => decodeScope
  | .picky => decodeInt .int64
  | .json => some

def encodeInt {kind : IntKind} (n : Ranged kind) : Json := .int n.val

def encodeTodo (item : Todo) : Json :=
  .obj [("done", .bool item.done), ("title", .str item.title)]

def encode : (type : StoreType) → type.Carrier → Except EncodeError Json
  | .int _, n => .ok (encodeInt n)
  | .float, x => .ok (.float x)
  | .bool, b => .ok (.bool b)
  | .string, s => .ok (.str s)
  | .char, c => .ok (.str (String.singleton c))
  | .optionalInt, n => .ok (n.elim .null encodeInt)
  | .optionalString, s => .ok (s.elim .null .str)
  | .intList, ns => .ok (.arr (ns.map encodeInt))
  | .intMap, ns => .ok (.ofMembers (ns.map encodeInt))
  | .pair, (n, s) => .ok (.arr [encodeInt n, .str s])
  | .todo, item => .ok (encodeTodo item)
  | .scope, place => .ok (.str place.name)
  | .picky, n => if n.val < 0 then .error (.refused n.val) else .ok (encodeInt n)
  | .json, value => .ok value

/-- What a reader is shown of a value: its written form, or a sign that it has none. -/
def presented (type : StoreType) (value : type.Carrier) : Json :=
  match type.encode value with
  | .ok written => written
  | .error _ => .str "<unencodable>"

end StoreType
end LiveTabs
