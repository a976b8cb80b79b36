import LiveTabs.Json.Number
import LiveTabs.Json.Token
/-!
JSON values from tokens. The parser keeps the arrays and objects that are still open on a stack
and says what may come next. Of equal keys in one object the last one stands.
-/
namespace LiveTabs.Json

/-- An array or object still open, the items of an array in reverse. -/
inductive Frame where
  | array (items : List Json)
  | object (members : KeyMap Json) (key : String)

inductive Expected where
  | value
  | valueOrClose
  | key (members : KeyMap Json)
  | keyOrClose
  | colon (members : KeyMap Json) (key : String)
  | afterValue (value : Json)

structure Parsing where
  opened : List Frame
  expected : Expected

/-- Arrays and objects nest at most this deep. -/
def nestingLimit : Nat := 127

def ofWord? (cs : List Char) : Option Json :=
  if cs = ['n', 'u', 'l', 'l'] then some .null
  else if cs = ['t', 'r', 'u', 'e'] then some (.bool true)
  else if cs = ['f', 'a', 'l', 's', 'e'] then some (.bool false)
  else readNumber? cs

/-- A value may begin here: a whole one, or the opening of an array or object. An object's members
are kept beside the stack until its first value is reached. -/
def startValue (opened : List Frame) (depth : Nat) : Token → Option Parsing
  | .str s => some ⟨opened, .afterValue (.str s)⟩
  | .word cs => (ofWord? cs).map fun value => ⟨opened, .afterValue value⟩
  | .openArray =>
    if depth < nestingLimit then some ⟨.array [] :: opened, .valueOrClose⟩ else none
  | .openObject => if depth < nestingLimit then some ⟨opened, .keyOrClose⟩ else none
  | _ => none

/-- What follows a complete value inside the innermost array or object. -/
def afterValue (opened : List Frame) (value : Json) (token : Token) : Option Parsing :=
  match opened, token with
  | .array items :: rest, .comma => some ⟨.array (value :: items) :: rest, .value⟩
  | .array items :: rest, .closeArray =>
    some ⟨rest, .afterValue (.arr (value :: items).reverse)⟩
  | .object members key :: rest, .comma => some ⟨rest, .key (members.insert key value)⟩
  | .object members key :: rest, .closeObject =>
    some ⟨rest, .afterValue (ofMembers (members.insert key value))⟩
  | _, _ => none

def parseToken (state : Parsing) (token : Token) : Option Parsing :=
  let opened := state.opened
  match state.expected, token with
  | .valueOrClose, .closeArray =>
    match opened with
    | .array items :: rest => some ⟨rest, .afterValue (.arr items.reverse)⟩
    | _ => none
  | .value, token => startValue opened opened.length token
  | .valueOrClose, token => startValue opened opened.length token
  | .keyOrClose, .closeObject => some ⟨opened, .afterValue (.obj [])⟩
  | .keyOrClose, .str key => some ⟨opened, .colon KeyMap.empty key⟩
  | .key members, .str key => some ⟨opened, .colon members key⟩
  | .colon members key, .colon => some ⟨.object members key :: opened, .value⟩
  | .afterValue value, token => afterValue opened value token
  | _, _ => none

def parseTokens (state : Parsing) : List Token → Option Json
  | [] =>
    match state with
    | ⟨[], .afterValue value⟩ => some value
    | _ => none
  | token :: rest => (parseToken state token).bind fun next => parseTokens next rest

/-- The value that a text denotes; none where the text is no JSON. -/
def parse? (text : String) : Option Json :=
  (scan text.toList).bind (parseTokens ⟨[], .value⟩)

end LiveTabs.Json
