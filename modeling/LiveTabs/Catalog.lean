import LiveTabs.Json
import LiveTabs.KeyMap
import LiveTabs.Scope
/-!
What a built page or component consists of: the states and signals that a new tab starts with, the
actions that a client may ask for, the ids of the components below it, and its view. Everything
declared by a component at any depth stands in one flat catalog, with the component as owner.

`V` is what a view is and `H` what an action's handler is; the catalog looks into neither.
-/
namespace LiveTabs

structure DeclaredState where
  key : String
  initial : Json
  scope : Scope
  owner : Option String

structure DeclaredSignal where
  key : String
  initial : Json
  owner : Option String

/-- A component as it is rendered: its view, under a root element with its id. -/
structure Component (V : Type) where
  id : String
  view : V

/-- Each signal key once. -/
def DeclaredSignal.keySet (signals : List DeclaredSignal) : KeySet :=
  KeyMap.ofList (signals.map fun signal => (signal.key, ()))

/-- The actions that some component declared have that component for their owner, the others have
none. The keys of the signals are kept once more as a set. -/
structure Catalog (V H : Type) where
  id : String
  route : Option String
  view : V
  states : List DeclaredState
  signals : List DeclaredSignal
  actions : KeyMap H
  owners : KeyMap (Component V)
  components : List String
  signalKeys : KeySet := DeclaredSignal.keySet signals

namespace Catalog
variable {V H V' H' : Type}

/-- The set of signal keys is the one of the signals listed. -/
def Indexed (page : Catalog V H) : Prop := page.signalKeys = DeclaredSignal.keySet page.signals

def knowsAction (page : Catalog V H) (action : String) : Bool := page.actions.contains action

def handler? (page : Catalog V H) (action : String) : Option H := page.actions.get? action

/-- The component that declared an action; none for the page's own. -/
def componentOf? (page : Catalog V H) (action : String) : Option (Component V) :=
  page.owners.get? action

def ownerOfAction? (page : Catalog V H) (action : String) : Option String :=
  (page.componentOf? action).map Component.id

def ownerOfState? (page : Catalog V H) (key : String) : Option String :=
  (page.states.find? fun state => state.key == key).bind DeclaredState.owner

def ownerOfSignal? (page : Catalog V H) (key : String) : Option String :=
  (page.signals.find? fun signal => signal.key == key).bind DeclaredSignal.owner

def knowsSignal (page : Catalog V H) (key : String) : Bool := page.signalKeys.contains key

/-- The page or component itself, as it is rendered. -/
def root (page : Catalog V H) : Component V := ⟨page.id, page.view⟩

/-- Who owns the actions of a component that is mounted: the component itself, unless one below it
owns the action already. -/
def ownersMounted (child : Catalog V H) : KeyMap (Component V) :=
  child.actions.mapKeyed fun action _ => (child.owners.get? action).getD child.root

/-- The same catalog with other views and handlers. -/
def map (view : V → V') (handler : H → H') (page : Catalog V H) : Catalog V' H' where
  id := page.id
  route := page.route
  view := view page.view
  states := page.states
  signals := page.signals
  actions := page.actions.map handler
  owners := page.owners.map fun owner => ⟨owner.id, view owner.view⟩
  components := page.components
  signalKeys := page.signalKeys

theorem Indexed.map {page : Catalog V H} (indexed : page.Indexed) (view : V → V')
    (handler : H → H') : (page.map view handler).Indexed := indexed

end Catalog
end LiveTabs
