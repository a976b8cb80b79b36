import LiveTabs.Json.Parser
/-!
What a client sends with an action: an object that names its tab and holds the values of its
signals.
-/
namespace LiveTabs

structure ClientRequest where
  connection : String
  signals : KeyMap Json

inductive RequestError where
  | malformed
  | notAnObject
  | missingConnection
  deriving DecidableEq

def RequestError.message : RequestError → String
  | .malformed => "malformed action payload"
  | .notAnObject => "action payload must be a JSON object"
  | .missingConnection => "action payload has no connection id"

namespace ClientRequest

/-- The member that names the tab; it is no signal. -/
def connectionKey : String := "_tab"

def ofJson : Json → Except RequestError ClientRequest
  | .obj members =>
    match KeyMap.lookup connectionKey members with
    | some (.str connection) => .ok ⟨connection, (KeyMap.ofList members).erase connectionKey⟩
    | _ => .error .missingConnection
  | _ => .error .notAnObject

def parse (payload : String) : Except RequestError ClientRequest :=
  match Json.parse? payload with
  | none => .error .malformed
  | some value => ofJson value

end ClientRequest
end LiveTabs
