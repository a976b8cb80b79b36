import LiveTabs.Binary64.Reading
import LiveTabs.Json.Printer
import LiveTabs.StoreType.Codec
import LiveTabs.Text.Blank
/-!
Reading a stored value at a declared type. A value that does not fit is tried in the forms it may
stand for, the most specific first; if none fits, the declared initial value is read instead.
-/
namespace LiveTabs.StoreType

/-- The whole number equal to a floating-point one, if it is one of 64 bits with a sign. -/
def integralForm (x : Binary64) : List Json :=
  match x.toInt? with
  | some n => if IntKind.int64.least ≤ n ∧ n ≤ IntKind.int64.greatest then [.int n] else []
  | none => []

/-- Text that reads as a whole number of 64 bits stands for that number only. -/
def numericForms (text : List Char) : List Json :=
  let asFloat :=
    match Binary64.read? text with
    | some x => integralForm x ++ [.float x]
    | none => []
  match Decimal.readSigned? text with
  | some n => if Json.leastInt ≤ n ∧ n ≤ Json.greatestInt then [.int n] else asFloat
  | none => asFloat

def truthForms (text : List Char) : List Json :=
  if text = ['t', 'r', 'u', 'e'] then [.bool true]
  else if text = ['f', 'a', 'l', 's', 'e'] then [.bool false]
  else []

/-- The forms that a stored value may stand for. -/
def otherForms : Json → List Json
  | .str s =>
    let text := Text.trimBy Text.isBlank s.toList
    truthForms text ++ numericForms text
  | .int n => [.str (Json.int n).text]
  | .float x => integralForm x ++ [.str (Json.float x).text]
  | .bool b => [.str (Json.bool b).text]
  | _ => []

/-- Never fails: what fits in no form is read as the initial value. -/
def coerce (type : StoreType) (stored : Json) (initial : type.Carrier) : type.Carrier :=
  ((stored :: otherForms stored).findSome? type.decode).getD initial

end LiveTabs.StoreType
