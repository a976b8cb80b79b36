import LiveTabs.Handler
/-!
One open tab on the server: its own state, the queue of patches for it, and the push channel that
drains the queue. Opening a channel supersedes the one before; closing the connection ends them
all. What was not delivered stays in the queue.
-/
namespace LiveTabs

/-- The newest push channel of an open connection is the one with the current generation. -/
inductive ChannelState where
  | opened (generation : Nat)
  | closed
  deriving DecidableEq

structure Connection where
  id : String
  session : Option String
  page : Page
  tab : Tab
  queue : Outbox
  lastAccess : Instant
  channel : ChannelState

inductive ActionOutcome where
  | handled
  | unknownAction
  | connectionNotFound
  | handlerPanicked
  deriving DecidableEq

/-- What a poll of a push channel finds. -/
inductive Polled where
  | item (patch : Patch)
  | pending
  | ended

namespace Connection

/-- None where no queue can hold what is asked for. -/
def fresh? (now : Instant) (id : String) (session : Option String) (page : Page)
    (capacity : Nat) : Option Connection :=
  (Outbox.ofCapacity? capacity).map fun queue =>
    ⟨id, session, page, Tab.fresh page.toCatalog, queue, now, .opened 0⟩

def isClosed (connection : Connection) : Bool := connection.channel == .closed

def retire (connection : Connection) : Connection := { connection with channel := .closed }

def refresh (connection : Connection) (now : Instant) : Connection :=
  { connection with lastAccess := max connection.lastAccess now }

def pop (connection : Connection) : Connection × Option Patch :=
  let taken := connection.queue.pop
  ({ connection with queue := taken.1 }, taken.2)

/-- Pops until nothing is left. -/
def drain (connection : Connection) : Connection × List Patch :=
  let drained := connection.queue.drain
  ({ connection with queue := drained.1 }, drained.2)

/-- Opens a push channel and gives its generation. On a closed connection it is zero, which is
never current. -/
def subscribe (connection : Connection) : Connection × Nat :=
  match connection.channel with
  | .opened generation =>
    ({ connection with channel := .opened (generation + 1) }, generation + 1)
  | .closed => (connection, 0)

/-- A channel that is not the current one has ended and takes nothing. -/
def poll (connection : Connection) (generation : Nat) : Connection × Polled :=
  if connection.channel = .opened generation then
    match connection.pop with
    | (drained, some patch) => (drained, .item patch)
    | (_, none) => (connection, .pending)
  else (connection, .ended)

/-- The connection and the shared values as a handler or view sees them. -/
def scene (connection : Connection) (shared : Shared) (mode : Mode) : Scene where
  connection := connection.id
  session := connection.session
  tab := { connection.tab with mode }
  queue := connection.queue
  shared := shared

/-- The connection after a scene; it is idle again. -/
def resume (connection : Connection) (scene : Scene) : Connection :=
  { connection with tab := { scene.tab with mode := .idle }, queue := scene.queue }

/-- Runs an action: the client's signals are taken over first, and then the handler runs. An
unknown action takes over nothing. -/
def runAction (connection : Connection) (shared : Shared) (now : Instant) (action : String)
    (signals : KeyMap Json) : Connection × Shared × List Note × ActionOutcome :=
  match connection.page.handler? action with
  | none => (connection, shared, [], .unknownAction)
  | some handler =>
    let begun := (connection.scene shared .action).takeOver connection.page.knowsSignal signals
    let performed := begun.1.perform (Page.invocation connection.page action now) handler
    (connection.resume performed.scene, performed.scene.shared, performed.notes,
      if performed.completed then .handled else .handlerPanicked)

/-- Puts the tab into a mode. -/
def enter (connection : Connection) (mode : Mode) : Connection :=
  { connection with tab := { connection.tab with mode } }

/-- The page as it is rendered for this connection, in the mode that its tab is in; none is a
panic. -/
def pageMarkup (connection : Connection) (shared : Shared) : Option String :=
  (connection.scene shared connection.tab.mode).render connection.page.root

end Connection
end LiveTabs
