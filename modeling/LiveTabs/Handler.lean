import LiveTabs.View
/-!
Handlers as sequences of statements. The handler ends at a statement that panics, and whatever was
done by then is kept.
-/
namespace LiveTabs

inductive Expr where
  | literal (value : Json)
  | state (handle : AnyState)
  | signal (handle : AnySignal)
  | add (terms : List Expr)
  | concat (parts : List Expr)

/-- A handle that could not be obtained is absent; nothing can be written to it. -/
inductive Statement where
  | set (handle : Option AnyState) (value : Expr)
  | setSignal (handle : Option AnySignal) (value : Expr)
  | sync
  | syncSignals
  | fragment (value : Expr)
  | fragmentBytes (body : Bytes)
  | script (value : Expr)
  | refuseSession
  | log (value : Expr)
  | identify
  | panic

abbrev Handler := List Statement

/-- A catalog that can be opened in a tab. -/
structure Page extends Catalog View Handler where
  indexed : toCatalog.Indexed

/-- The page of a catalog, with the signals indexed. -/
def Page.of (catalog : Catalog View Handler) : Page where
  toCatalog := { catalog with signalKeys := DeclaredSignal.keySet catalog.signals }
  indexed := rfl

/-- What a handler knows of the request it serves: the action, the component that declared it, and
what a sync renders, which is that component or the page. -/
structure Invocation where
  action : String
  owner : Option String
  target : Component View
  now : Instant

def Page.invocation (page : Page) (action : String) (now : Instant) : Invocation where
  action := action
  owner := page.ownerOfAction? action
  target := (page.componentOf? action).getD page.root
  now := now

/-- What a handler leaves in the trace. -/
inductive Note where
  | text (s : String)
  | identity (action : String) (component : Option String) (connection : String)
      (session : Option String)

/-- What a statement answers: whether it was accepted, or what it noted. -/
inductive Reply where
  | accepted (ok : Bool)
  | unreadable (statement : String)
  | noted (note : Note)
  | nothing

/-- Whole numbers of 64 bits are added with wrap-around, anything else counts as zero. -/
def addend : Json → Int
  | .int n => if IntKind.int64.least ≤ n ∧ n ≤ IntKind.int64.greatest then n else 0
  | _ => 0

def wrapInt64 (n : Int) : Int := n.bmod 18446744073709551616

namespace Scene

mutual

def eval (scene : Scene) : Expr → Json
  | .literal value => value
  | .state handle => scene.presentState handle
  | .signal handle => scene.presentSignal handle
  | .add terms => .int (wrapInt64 ((evalAll scene terms).map addend).sum)
  | .concat parts => .str (String.join ((evalAll scene parts).map Json.shown))

def evalAll (scene : Scene) : List Expr → List Json
  | [] => []
  | expr :: rest => eval scene expr :: evalAll scene rest

end

def assign (scene : Scene) (now : Instant) (handle : AnyState) (value : Json) : Scene × Reply :=
  match handle.1.decode value with
  | none => (scene, .unreadable "set")
  | some decoded =>
    let written := scene.setState now handle.2 decoded
    (written.1, .accepted written.2)

def assignSignal (scene : Scene) (handle : AnySignal) (value : Json) : Scene × Reply :=
  match handle.1.decode value with
  | none => (scene, .unreadable "set_signal")
  | some decoded =>
    let written := scene.setSignal handle.2 decoded
    (written.1, .accepted written.2)

/-- Renders the target and sends it. Outside an action nothing is rendered. The scene is the one
that is left, and none is a panic. -/
def sync (scene : Scene) (target : Component View) : Scene × Option Bool :=
  if scene.mayWrite then
    match scene.render target with
    | none => (scene, none)
    | some html =>
      let sent := scene.sendElements html
      (sent.1, some sent.2)
  else (scene, some false)

def replied (done : Scene × Bool) : Scene × Option Reply := (done.1, some (.accepted done.2))

/-- One statement: the scene that it leaves, and its answer; none is a panic. -/
def act (scene : Scene) (invocation : Invocation) : Statement → Scene × Option Reply
  | .set handle value =>
    match handle with
    | none => (scene, some (.unreadable "set"))
    | some handle =>
      let assigned := scene.assign invocation.now handle (scene.eval value)
      (assigned.1, some assigned.2)
  | .setSignal handle value =>
    match handle with
    | none => (scene, some (.unreadable "set_signal"))
    | some handle =>
      let assigned := scene.assignSignal handle (scene.eval value)
      (assigned.1, some assigned.2)
  | .sync =>
    let synced := scene.sync invocation.target
    (synced.1, synced.2.map .accepted)
  | .syncSignals => replied scene.sendSignals
  | .fragment value => replied (scene.sendElements (scene.eval value).shown)
  | .fragmentBytes body => replied (scene.sendElements (Text.Utf8.decode body))
  | .script value => replied (scene.sendScript (scene.eval value).shown)
  | .refuseSession => (scene.refuseSession invocation.now, some .nothing)
  | .log value => (scene, some (.noted (.text (scene.eval value).text)))
  | .identify =>
    (scene, some
      (.noted (.identity invocation.action invocation.owner scene.connection scene.session)))
  | .panic => (scene, none)

end Scene

def Reply.notes : Reply → List Note
  | .unreadable statement => [.text ("bad " ++ statement)]
  | .noted note => [note]
  | _ => []

structure Performance where
  scene : Scene
  notes : List Note
  completed : Bool

/-- Runs statements in order up to the first that panics. -/
def Scene.perform (scene : Scene) (invocation : Invocation) : Handler → Performance
  | [] => ⟨scene, [], true⟩
  | statement :: rest =>
    match scene.act invocation statement with
    | (left, none) => ⟨left, [], false⟩
    | (next, some reply) =>
      let later := next.perform invocation rest
      { later with notes := reply.notes ++ later.notes }

end LiveTabs
