import LiveTabs.Handle
import LiveTabs.Patch.Outbox
import LiveTabs.Session
import LiveTabs.StoreType.Coercion
import LiveTabs.Tab
/-!
A tab together with everything that a view reads and a handler changes. Reads fall back to the
declared initial value. Every change is refused outside an action and then alters nothing.
-/
namespace LiveTabs

structure Scene where
  connection : String
  session : Option String
  tab : Tab
  queue : Outbox
  shared : Shared

namespace Scene

def mayWrite (scene : Scene) : Bool := scene.tab.mode == .action

/-- The value stored for a state, if any, where its scope keeps it. -/
def stored? (scene : Scene) (scope : Scope) (key : String) : Option Json :=
  match scope with
  | .connection => scene.tab.values.get? key
  | .session => scene.session.bind fun session => scene.shared.sessions.get? session key
  | .application => scene.shared.application.get? key

def stateValue {type : StoreType} (scene : Scene) (state : State type) : type.Carrier :=
  match scene.stored? state.scope state.key with
  | some stored => type.coerce stored state.initial
  | none => state.initial

def signalValue {type : StoreType} (scene : Scene) (signal : Signal type) : type.Carrier :=
  match scene.tab.signals.get? signal.key with
  | some stored => type.coerce stored signal.initial
  | none => signal.initial

def withSessions (scene : Scene) (sessions : Sessions) : Scene :=
  { scene with shared := { scene.shared with sessions } }

/-- Stores a written value where its scope keeps it, and says whether it did. -/
def store (scene : Scene) (now : Instant) (scope : Scope) (key : String) (written : Json) :
    Scene × Bool :=
  match scope with
  | .connection =>
    ({ scene with tab := { scene.tab with values := scene.tab.values.insert key written } }, true)
  | .application =>
    ({ scene with
      shared := { scene.shared with
        application := scene.shared.application.insert key written } }, true)
  | .session =>
    match scene.session with
    | none => (scene, false)
    | some session =>
      let stored := scene.shared.sessions.set now session key written
      (scene.withSessions stored.1, stored.2)

def setState {type : StoreType} (scene : Scene) (now : Instant) (state : State type)
    (value : type.Carrier) : Scene × Bool :=
  if scene.mayWrite then
    match type.encode value with
    | .error _ => (scene, false)
    | .ok written => scene.store now state.scope state.key written
  else (scene, false)

def setSignal {type : StoreType} (scene : Scene) (signal : Signal type)
    (value : type.Carrier) : Scene × Bool :=
  if scene.mayWrite then
    match type.encode value with
    | .error _ => (scene, false)
    | .ok written =>
      ({ scene with
        tab := { scene.tab with
          signals := scene.tab.signals.insert signal.key written
          changed := scene.tab.changed.insert signal.key () } }, true)
  else (scene, false)

/-- Takes over the client's values of declared signals, as they were sent. They do not count as
changed. The second part is how many were taken. -/
def takeOver (scene : Scene) (declared : String → Bool) (sent : KeyMap Json) : Scene × Nat :=
  let taken := sent.filter fun key _ => declared key
  ({ scene with tab := { scene.tab with signals := scene.tab.signals.insertAll taken.entries } },
    taken.size)

/-- Offers a patch to the queue; a full queue drops it. -/
def enqueue (scene : Scene) (patch : Patch) : Scene :=
  { scene with queue := (scene.queue.push patch).1 }

/-- The current values of the signals that were written since the last flush. -/
def changedSignals (scene : Scene) : KeyMap Json :=
  scene.tab.signals.filter fun key _ => scene.tab.changed.contains key

/-- Offers one patch with the changed signals, or none if nothing changed. -/
def offerChanged (scene : Scene) : Scene :=
  if scene.tab.changed.isEmpty then scene
  else
    { scene with tab := { scene.tab with changed := KeyMap.empty } }.enqueue
      (.signals scene.changedSignals)

/-- Offers markup, and the changed signals after it. -/
def sendElements (scene : Scene) (html : String) : Scene × Bool :=
  if scene.mayWrite then ((scene.enqueue (.elements html)).offerChanged, true)
  else (scene, false)

def sendSignals (scene : Scene) : Scene × Bool :=
  if scene.mayWrite then (scene.offerChanged, true) else (scene, false)

def sendScript (scene : Scene) (text : String) : Scene × Bool :=
  if scene.mayWrite then (scene.enqueue (.script text), true) else (scene, false)

/-- A tab without a session has none to refuse. -/
def refuseSession (scene : Scene) (now : Instant) : Scene :=
  match scene.session with
  | none => scene
  | some session => scene.withSessions (scene.shared.sessions.refuse now session)

end Scene
end LiveTabs
