import LiveTabs.Json.Printer
/-!
What the server sends to a tab: rendered markup, the values of changed signals, or a script.
-/
namespace LiveTabs

inductive Patch where
  | elements (html : String)
  | signals (values : KeyMap Json)
  | script (text : String)

namespace Patch

def kind : Patch → String
  | .elements _ => "elements"
  | .signals _ => "signals"
  | .script _ => "script"

end Patch
end LiveTabs
