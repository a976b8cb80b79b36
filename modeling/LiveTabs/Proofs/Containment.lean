import LiveTabs.Proofs.Changes
import LiveTabs.Proofs.Sessions
/-!
Failed requests are contained. A request that cannot be read, or that finds no connection, does
nothing; an unknown action leaves a stamp; and a handler that panics leaves what it would have left
had it ended just before.
-/
namespace LiveTabs

namespace Scene

theorem act_panics_iff (scene : Scene) (invocation : Invocation) (statement : Statement) :
    (scene.act invocation statement).2 = none ↔
      statement = .panic ∨
        statement = .sync ∧ scene.mayWrite = true ∧ scene.render invocation.target = none := by
  cases statement with
  | sync =>
    by_cases acting : scene.mayWrite = true <;>
      cases rendered : scene.render invocation.target <;> simp [act, sync, acting, rendered]
  | set handle value => cases handle <;> simp [act]
  | setSignal handle value => cases handle <;> simp [act]
  | panic => simp [act]
  | _ => simp [act, replied]

/-- A handler that panics has come to one statement: all before it are done, it leaves the scene
that it found, and that is all that is left. -/
structure StopsAt (scene : Scene) (invocation : Invocation) (handler done : Handler)
    (failing : Statement) : Prop where
  before : ∃ rest, handler = done ++ failing :: rest
  completed : (scene.perform invocation done).completed = true
  panics : (scene.perform invocation done).scene.act invocation failing =
    ((scene.perform invocation done).scene, none)
  same : (scene.perform invocation handler).scene = (scene.perform invocation done).scene

theorem stopsAt_of_panicked {scene : Scene} {invocation : Invocation} {handler : Handler}
    (panicked : (scene.perform invocation handler).completed = false) :
    ∃ done failing, scene.StopsAt invocation handler done failing := by
  induction handler generalizing scene with
  | nil => nomatch panicked
  | cons statement rest ih =>
    rcases acted : scene.act invocation statement with ⟨next, _ | reply⟩
    · obtain ⟨-, rfl⟩ := act_panicked acted
      exact ⟨[], statement, ⟨rest, rfl⟩, rfl, acted, by simp [perform, acted]⟩
    · simp only [perform, acted] at panicked
      obtain ⟨done, failing, ⟨others, split⟩, completed, panics, same⟩ := ih panicked
      refine ⟨statement :: done, failing, ⟨others, by rw [split]; rfl⟩, ?_, ?_, ?_⟩
      · simpa only [perform, acted] using completed
      · simpa only [perform, acted] using panics
      · simpa only [perform, acted] using same

end Scene

/-- The same page with another handler for one action. Whose action it is stays. -/
def Page.handling (page : Page) (action : String) (handler : Handler) : Page :=
  { page with actions := page.actions.insert action handler }

namespace Page
variable (page : Page) (action : String) (handler : Handler)

theorem handler?_handling : (page.handling action handler).handler? action = some handler := by
  simp [handling, Catalog.handler?]

theorem invocation_handling (now : Instant) :
    (page.handling action handler).invocation action now = page.invocation action now := rfl

end Page

namespace App

theorem lookup_placed {app : App} {id : String} {place : Nat} {connection : Connection}
    (placed : app.place? id = some place) (here : app.connections[place]? = some connection) :
    app.lookup id = some connection := by
  rw [lookup, placed, Option.bind_some, here]

/-- The sessions once a connection was found: its own, if it is there, has a new stamp. -/
def refreshedSessions (app : App) (now : Instant) (connection : Connection) : Sessions :=
  connection.session.elim app.shared.sessions (app.shared.sessions.refresh now)

/-- The scene in which a handler begins: the connection and its session are refreshed and the
client's signals taken over. -/
def begun (app : App) (now : Instant) (connection : Connection) (signals : KeyMap Json) : Scene :=
  (((connection.refresh now).scene
    { app.shared with sessions := app.refreshedSessions now connection } .action).takeOver
      connection.page.knowsSignal signals).1

/-- What is left when a handler has come to a scene. -/
def leaving (app : App) (now : Instant) (place : Nat) (connection : Connection)
    (reached : Scene) : App :=
  { app.setConnection place ((connection.refresh now).resume reached) with
    shared := reached.shared }

/-- Nothing but the stamps of a connection and of its session is new. -/
structure Stamped (before : App) (now : Instant) (place : Nat) (connection : Connection)
    (after : App) : Prop where
  connections : after.connections =
    before.connections.set place
      { connection with lastAccess := max connection.lastAccess now }
  sessions : ∀ id, after.shared.sessions.live.get? id =
    (before.shared.sessions.live.get? id).map fun entry =>
      if connection.session = some id then { entry with lastAccess := max entry.lastAccess now }
      else entry
  refused : after.shared.sessions.refused = before.shared.sessions.refused
  application : after.shared.application = before.shared.application
  pages : after.pages = before.pages
  config : after.config = before.config
  registered : after.registered = before.registered
  ids : after.ids = before.ids

theorem runAction_missing {app : App} {id : String} (missing : app.lookup id = none)
    (now : Instant) (action : String) (signals : KeyMap Json) :
    app.runAction now id action signals = (app, [], .connectionNotFound) := by
  cases placed : app.place? id with
  | none => simp only [runAction, placed]
  | some place =>
    have kept : (app.refresh now id).1 = app := by simp only [refresh, placed, missing]
    simp only [runAction, placed, kept, missing]

section
variable {app : App} {id : String} {place : Nat} {connection : Connection}
  (placed : app.place? id = some place) (here : app.connections[place]? = some connection)
include placed here

theorem refresh_found (now : Instant) :
    (app.refresh now id).1 =
      (app.setConnection place (connection.refresh now)).withSessions
        (app.refreshedSessions now connection) := by
  cases session : connection.session <;>
    simp [refresh, refreshedSessions, placed, lookup_placed placed here, session, withSessions,
      setConnection]

theorem refresh_stamped (now : Instant) :
    app.Stamped now place connection (app.refresh now id).1 := by
  rw [refresh_found placed here]
  refine ⟨rfl, fun other => ?_, ?_, rfl, rfl, rfl, rfl, rfl⟩
  · simp only [withSessions, refreshedSessions]
    cases session : connection.session with
    | none => simp
    | some own =>
      rw [Option.elim_some, Sessions.live_refresh]
      by_cases same : other = own
      · subst same
        simp
      · simp [same, Ne.symm same]
  · simp only [withSessions, refreshedSessions]
    cases connection.session with
    | none => rfl
    | some own => exact app.shared.sessions.refused_refresh now own

theorem refreshed_found (now : Instant) :
    (app.refresh now id).1.connections[place]? = some (connection.refresh now) := by
  have inside := (List.getElem?_eq_some_iff.mp here).1
  rw [refresh_found placed here]
  simp [withSessions, setConnection, inside]

theorem lookup_refresh (now : Instant) :
    (app.refresh now id).1.lookup id = some (connection.refresh now) :=
  lookup_placed ((app.place?_refresh now id id).trans placed) (refreshed_found placed here now)

theorem runAction_unknown {action : String} (unknown : connection.page.handler? action = none)
    (now : Instant) (signals : KeyMap Json) :
    app.runAction now id action signals = ((app.refresh now id).1, [], .unknownAction) := by
  have found := lookup_refresh placed here now
  have idle : (connection.refresh now).page.handler? action = none := unknown
  have same := setConnection_same (refreshed_found placed here now)
  simp only [runAction, placed, found, Connection.runAction, idle]
  exact congrArg (·, [], ActionOutcome.unknownAction) same

theorem runAction_found {action : String} {handler : Handler}
    (known : connection.page.handler? action = some handler) (now : Instant)
    (signals : KeyMap Json) :
    let performed := (app.begun now connection signals).perform
      (Page.invocation connection.page action now) handler
    app.runAction now id action signals =
      (app.leaving now place connection performed.scene, performed.notes,
        if performed.completed then .handled else .handlerPanicked) := by
  have found := lookup_refresh placed here now
  have refreshed := refresh_found placed here now
  have still : (connection.refresh now).page.handler? action = some handler := known
  simp only [runAction, placed, found, Connection.runAction, still]
  simp only [refreshed, setConnection, withSessions, List.set_set]
  rfl

end

/-- The connection at a place as it were on another page. -/
def onPage (app : App) (place : Nat) (page : Page) : App :=
  app.modify place fun connection => { connection with page }

theorem onPage_setConnection (app : App) (place : Nat) (first last : Page)
    (connection : Connection) :
    ((app.onPage place first).setConnection place connection).onPage place last =
      app.setConnection place { connection with page := last } := by
  have same : ((app.connections.modify place fun found => { found with page := first }).set place
        connection).modify place (fun found => { found with page := last }) =
      app.connections.set place { connection with page := last } := by
    apply List.ext_getElem?
    intro other
    by_cases here : place = other
    · subst here
      by_cases inside : place < app.connections.length <;> simp [inside]
    · simp [here]
  simp only [onPage, modify, setConnection, same]

/-- An action request that finds another handler for its action, this once. -/
def runInstead (app : App) (now : Instant) (place : Nat) (page : Page) (id action : String)
    (handler : Handler) (signals : KeyMap Json) : App :=
  ((app.onPage place (page.handling action handler)).runAction now id action signals).1.onPage
    place page

theorem runInstead_found {app : App} {id : String} {place : Nat} {connection : Connection}
    (placed : app.place? id = some place) (here : app.connections[place]? = some connection)
    (now : Instant) (action : String) (handler : Handler) (signals : KeyMap Json) :
    let performed := (app.begun now connection signals).perform
      (Page.invocation connection.page action now) handler
    app.runInstead now place connection.page id action handler signals =
      app.leaving now place connection performed.scene := by
  intro performed
  let other := connection.page.handling action handler
  let moved : Connection := { connection with page := other }
  have there : (app.onPage place other).connections[place]? = some moved := by
    simp [onPage, modify, here, moved]
  have still : (app.onPage place other).place? id = some place := placed
  have run := runAction_found still there
    (connection.page.handler?_handling action handler) now signals
  -- The other page declares the same signals, so that the handler begins as it would on this one.
  have same : ((app.onPage place other).begun now moved signals).perform
      (Page.invocation moved.page action now) handler = performed := by
    rw [connection.page.invocation_handling action handler now]
    rfl
  have restored := app.onPage_setConnection place other connection.page
    ((moved.refresh now).resume performed.scene)
  rw [runInstead, run, same]
  exact congrArg (fun after : App => { after with shared := performed.scene.shared }) restored

end App

/-- A request that cannot be read, or that asks for no connection there is, changes nothing. An
action that the page does not know leaves two stamps and takes over no signals. A handler that
panics, at a statement that does or at a sync whose view does, leaves everything as it is left by a
handler that is over just before, so that whatever is done later comes to the same. -/
theorem failed_requests_contained (app : App) (now : Instant) (action : String) :
    (∀ payload error, ClientRequest.parse payload = .error error →
      app.runRequest now action payload = (app, [], .error error)) ∧
    (∀ payload request, ClientRequest.parse payload = .ok request →
      let ran := app.runAction now request.connection action request.signals
      app.runRequest now action payload = (ran.1, ran.2.1, .ok ran.2.2)) ∧
    ∀ (id : String) (signals : KeyMap Json),
      (app.lookup id = none →
        app.runAction now id action signals = (app, [], .connectionNotFound)) ∧
      ∀ place connection, app.place? id = some place → app.connections[place]? = some connection →
        let ran := app.runAction now id action signals
        (connection.page.handler? action = none →
          app.Stamped now place connection ran.1 ∧ ran.2 = ([], .unknownAction)) ∧
        ∀ handler, connection.page.handler? action = some handler →
          let begun := app.begun now connection signals
          let invocation := Page.invocation connection.page action now
          (begun.perform invocation handler).completed = false →
          ran.2.2 = .handlerPanicked ∧
          ∃ done failing,
            let reached := (begun.perform invocation done).scene
            let instead := app.runInstead now place connection.page id action done signals
            begun.StopsAt invocation handler done failing ∧
            (failing = .panic ∨ failing = .sync ∧ reached.render invocation.target = none) ∧
            ran.1 = instead ∧
            (∃ later, ran.1.connections[place]? = some later ∧
              later.tab = { reached.tab with mode := .idle } ∧ later.queue = reached.queue) ∧
            ∀ (scenario : Scenario) (number : Nat) (steps : List Step),
              (scenario.withApp ran.1).runFrom number steps =
                (scenario.withApp instead).runFrom number steps := by
  refine ⟨fun payload error refused => ?_, fun payload request read => ?_, fun id signals =>
    ⟨fun missing => ?_, fun place connection placed here => ⟨fun unknown => ?_, ?_⟩⟩⟩
  · simp only [App.runRequest, refused]
  · simp only [App.runRequest, read]
  · exact App.runAction_missing missing now action signals
  · rw [App.runAction_unknown placed here unknown]
    exact ⟨App.refresh_stamped placed here now, rfl⟩
  · intro handler known begun invocation panicked
    obtain ⟨done, failing, stops⟩ := Scene.stopsAt_of_panicked panicked
    have ran := App.runAction_found placed here known now signals
    have instead := App.runInstead_found placed here now action done signals
    have same : (app.runAction now id action signals).1 =
        app.runInstead now place connection.page id action done signals := by
      rw [ran, instead]
      exact congrArg (app.leaving now place connection) stops.same
    have inside := (List.getElem?_eq_some_iff.mp here).1
    refine ⟨?_, done, failing, stops, ?_, same, ?_, fun scenario number steps => by rw [same]⟩
    · rw [ran]
      exact if_neg (by rw [panicked]; exact Bool.false_ne_true)
    · obtain own | ⟨rendering, -, nothing⟩ :=
        (Scene.act_panics_iff _ _ _).mp (congrArg Prod.snd stops.panics)
      · exact .inl own
      · exact .inr ⟨rendering, nothing⟩
    · rw [same, instead]
      refine ⟨(connection.refresh now).resume (begun.perform invocation done).scene, ?_, rfl, rfl⟩
      simp only [App.leaving, App.setConnection, List.getElem?_set_self inside]
      rfl

-- The view panics on one value; the handler writes it between a signal and a sync.
def moodHandle : State .string := ⟨"mood", .connection, "calm"⟩

def provoked : Handler :=
  [.setSignal (some ⟨.string, "said", ""⟩) (.literal (.str "oh")),
    .set (some ⟨.string, moodHandle⟩) (.literal (.str "cross")), .sync, .script (.literal .null)]

def moodPage : Page := .of {
  id := "mood"
  route := some "/"
  view := [.panicIf ⟨.string, moodHandle⟩ "\"cross\""]
  states := [⟨"mood", .str "calm", .connection, none⟩]
  signals := [⟨"said", .str "", none⟩]
  actions := KeyMap.ofList [("provoke", provoked)]
  owners := KeyMap.empty
  components := [] }

def moodTab : Connection :=
  ⟨"tab", some "s", moodPage, Tab.fresh moodPage.toCatalog, ⟨1, []⟩, 0, .opened 0⟩

def moodApp : App :=
  ⟨KeyMap.ofList [("/", moodPage)], Config.defaults, Shared.empty, [moodTab],
    KeyMap.ofList [("tab", 0)], ⟨1, 0⟩⟩

theorem failed_requests_contained_panicking_view :
    (moodApp.runRequest 1 "provoke" "[1]" = (moodApp, [], .error .notAnObject) ∧
      moodApp.runAction 1 "other" "provoke" KeyMap.empty = (moodApp, [], .connectionNotFound) ∧
      moodApp.Stamped 1 0 moodTab (moodApp.runAction 1 "tab" "soothe" KeyMap.empty).1) ∧
    (moodApp.runAction 1 "tab" "provoke" KeyMap.empty).2.2 = .handlerPanicked ∧
    ∃ done failing,
      (moodApp.begun 1 moodTab KeyMap.empty).StopsAt (moodPage.invocation "provoke" 1) provoked
        done failing ∧
      (moodApp.runAction 1 "tab" "provoke" KeyMap.empty).1 =
        moodApp.runInstead 1 0 moodPage "tab" "provoke" done KeyMap.empty := by
  have provoke := failed_requests_contained moodApp 1 "provoke"
  have soothe := failed_requests_contained moodApp 1 "soothe"
  have panics := ((provoke.2.2 "tab" KeyMap.empty).2 0 moodTab rfl rfl).2 provoked rfl (by rfl)
  obtain ⟨panicked, done, failing, stops, -, same, -⟩ := panics
  exact ⟨⟨provoke.1 "[1]" .notAnObject rfl, (provoke.2.2 "other" KeyMap.empty).1 rfl,
      (((soothe.2.2 "tab" KeyMap.empty).2 0 moodTab rfl rfl).1 rfl).1⟩,
    panicked, done, failing, stops, same⟩

end LiveTabs
