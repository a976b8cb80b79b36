import LiveTabs.Patch
import LiveTabs.Text.Lines
/-!
Patches on an event stream. Each is one event: a line with its name, a line for each line of its
data, and an empty line.
-/
namespace LiveTabs.Patch

def eventName : Patch → String
  | .elements _ => "patch-elements"
  | .signals _ => "patch-signals"
  | .script _ => "execute-script"

/-- Every line of a text carries the label, and lines are joined by line feeds alone. -/
def labelled (label : String) (text : String) : List Char :=
  Text.joinWith '\n' ((Text.lines text.toList).map fun line => label.toList ++ ' ' :: line)

def dataChars : Patch → List Char
  | .elements html => labelled "elements" html
  | .signals values => "signals ".toList ++ (Json.ofMembers values).write
  | .script text => labelled "script" text

def data (patch : Patch) : String := String.ofList patch.dataChars

def field (name : String) (value : List Char) : List Char :=
  name.toList ++ ':' :: ' ' :: value ++ ['\n']

def frameChars (patch : Patch) : List Char :=
  field "event" patch.eventName.toList ++
    (Text.splitAt '\n' patch.dataChars).flatMap (field "data") ++ ['\n']

def frame (patch : Patch) : String := String.ofList patch.frameChars

end LiveTabs.Patch
