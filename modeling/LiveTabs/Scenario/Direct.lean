import LiveTabs.Connection
/-!
Working in a tab from outside a handler: in any mode, with any action standing in for the one that
is served. What a handler would leave in the trace is answered here, one reply for each statement.
-/
namespace LiveTabs

/-- A handler's statement, or the client's part of a request: an object of values to take over. -/
inductive DirectStatement where
  | perform (statement : Statement)
  | takeOver (values : Expr)

inductive DirectReply where
  | replied (reply : Reply)
  | taken (count : Nat)
  | panicked

namespace Scene

/-- A value that is no object has nothing to take over. -/
def direct (scene : Scene) (declared : String → Bool) (invocation : Invocation) :
    DirectStatement → Scene × DirectReply
  | .perform statement =>
    match scene.act invocation statement with
    | (left, none) => (left, .panicked)
    | (next, some reply) => (next, .replied reply)
  | .takeOver values =>
    let begun := scene.takeOver declared ((scene.eval values).members?.getD KeyMap.empty)
    (begun.1, .taken begun.2)

def directAll (scene : Scene) (declared : String → Bool) (invocation : Invocation) :
    List DirectStatement → Scene × List DirectReply
  | [] => (scene, [])
  | statement :: rest =>
    let first := scene.direct declared invocation statement
    let others := first.1.directAll declared invocation rest
    (others.1, first.2 :: others.2)

end Scene

/-- Puts the tab into a mode, runs the statements, and leaves it idle. -/
def Connection.direct (connection : Connection) (shared : Shared) (now : Instant) (mode : Mode)
    (action : String) (body : List DirectStatement) : Connection × Shared × List DirectReply :=
  let done := (connection.scene shared mode).directAll connection.page.knowsSignal
    (Page.invocation connection.page action now) body
  (connection.resume done.1, done.1.shared, done.2)

end LiveTabs
