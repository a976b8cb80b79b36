import LiveTabs.Proofs.Deeds
import LiveTabs.Proofs.Opening
import LiveTabs.Scenario
/-!
Whatever a step does to the application comes down to a list of changes, each of which touches one
thing. A property of every run needs one case for each change, and not one for each step, each
route of the transport and each way through a page load.
-/
namespace LiveTabs

inductive Change where
  | ensureSession (id : String)
  | refreshSession (id : String)
  | setSession (id key : String) (value : Json)
  | refuseSession (id : String)
  | setApplication (key : String) (value : Json)
  | number (ids : IdSource)
  | connect (id : String) (session : Option String) (page : Page)
  | touch (place : Nat)
  | work (place : Nat) (mode : Mode) (deeds : List Deed)
  | subscribe (place : Nat)
  | poll (channel : PushChannel)
  | pop (place : Nat)
  | drain (place : Nat)
  | close (id : String)
  | sweep (instant : Instant) (ttl : Duration)

namespace App

/-- Deeds on the connection at a place, which leave it idle. -/
def work (app : App) (now : Instant) (place : Nat) (mode : Mode) (deeds : List Deed) : App :=
  match app.connections[place]? with
  | none => app
  | some connection =>
    let worked := connection.work app.shared now mode deeds
    { app.setConnection place worked.1 with shared := worked.2 }

def apply (now : Instant) (app : App) : Change → App
  | .ensureSession id => app.withSessions (app.shared.sessions.ensure now id)
  | .refreshSession id => app.withSessions (app.shared.sessions.refresh now id)
  | .setSession id key value => app.withSessions (app.shared.sessions.set now id key value).1
  | .refuseSession id => app.refuseSession now id
  | .setApplication key value => app.setApplication key value
  | .number ids => { app with ids }
  | .connect id session page => (app.connect now id session page).getD app
  | .touch place => app.modify place fun connection => connection.refresh now
  | .work place mode deeds => app.work now place mode deeds
  | .subscribe place => (app.subscribeAt place).1
  | .poll channel => (app.poll channel).1
  | .pop place => app.modify place fun connection => connection.pop.1
  | .drain place => app.modify place fun connection => connection.drain.1
  | .close id => (app.close id).1
  | .sweep instant ttl => (app.sweep instant ttl).1

def applyAll (now : Instant) (app : App) (changes : List Change) : App :=
  changes.foldl (apply now) app

theorem applyAll_append (now : Instant) (app : App) (first later : List Change) :
    app.applyAll now (first ++ later) = (app.applyAll now first).applyAll now later := by
  simp [applyAll]

theorem subscribeAt_eq_modify (app : App) (place : Nat) :
    (app.subscribeAt place).1 = app.modify place fun connection => connection.subscribe.1 := by
  unfold subscribeAt
  cases found : app.connections[place]? with
  | none =>
    have beyond := List.getElem?_eq_none_iff.mp found
    simp [modify, List.modify_eq_self beyond]
  | some connection => exact setConnection_eq_modify found fun connection => connection.subscribe.1

theorem poll_eq_modify (app : App) (channel : PushChannel) :
    (app.poll channel).1 =
      app.modify channel.place fun connection => (connection.poll channel.generation).1 := by
  unfold poll
  cases found : app.connections[channel.place]? with
  | none =>
    have beyond := List.getElem?_eq_none_iff.mp found
    simp [modify, List.modify_eq_self beyond]
  | some connection =>
    exact setConnection_eq_modify found fun connection => (connection.poll channel.generation).1

theorem close_cases (app : App) (id : String) :
    (app.place? id = none ∧ app.close id = (app, false)) ∨
      ∃ place, app.place? id = some place ∧ app.close id =
        ({ app.modify place Connection.retire with registered := app.registered.erase id }, true) := by
  cases placed : app.place? id with
  | none => exact .inl ⟨rfl, by simp only [close, placed]⟩
  | some place => exact .inr ⟨place, rfl, by simp only [close, placed]⟩

-- A sweep shuts down one connection after the other.
theorem retired_induction {motive : App → Prop}
    (kept : ∀ (app : App) (place : Nat), motive app → motive (app.modify place Connection.retire))
    (app : App) (gone : List (String × Nat)) (begun : motive app) :
    motive (gone.foldl (fun app entry => app.modify entry.2 Connection.retire) app) := by
  induction gone generalizing app with
  | nil => exact begun
  | cons entry rest ih => exact ih _ (kept app entry.2 begun)

/-- What is looked up stands at its place. -/
theorem found_of_lookup {app : App} {id : String} {place : Nat} {connection : Connection}
    (placed : app.place? id = some place) (found : app.lookup id = some connection) :
    app.connections[place]? = some connection := by
  rw [lookup, placed, Option.bind_some] at found
  exact found

def refreshChanges (app : App) (id : String) : List Change :=
  match app.place? id, app.lookup id with
  | some place, some connection => .touch place :: connection.session.toList.map .refreshSession
  | _, _ => []

theorem refreshChanges_all {kind : Change → Bool} (touches : ∀ place, kind (.touch place) = true)
    (renews : ∀ session, kind (.refreshSession session) = true) (app : App) (id : String) :
    (app.refreshChanges id).all kind = true := by
  unfold refreshChanges
  split
  · next connection _ _ => cases connection.session <;> simp [touches, renews]
  · rfl

theorem refresh_changes (app : App) (now : Instant) (id : String) :
    (app.refresh now id).1 = app.applyAll now (app.refreshChanges id) := by
  cases placed : app.place? id with
  | none => simp [refresh, refreshChanges, placed, applyAll]
  | some place =>
    cases found : app.lookup id with
    | none => simp [refresh, refreshChanges, placed, found, applyAll]
    | some connection =>
      have there := found_of_lookup placed found
      have touched := setConnection_eq_modify there fun connection => connection.refresh now
      cases session : connection.session <;>
        simp [refresh, refreshChanges, placed, found, session, applyAll, apply, touched]

theorem refresh_registered (app : App) (now : Instant) (id : String) :
    (app.refresh now id).1.registered = app.registered := by
  unfold refresh
  split
  · next connection _ _ =>
    dsimp only
    split <;> rfl
  · rfl

theorem place?_refresh (app : App) (now : Instant) (id other : String) :
    (app.refresh now id).1.place? other = app.place? other := by
  rw [place?, refresh_registered]
  rfl

def sessionChanges (app : App) (now : Instant) (cookie : Option String) : List Change :=
  let session := (app.sessionFor now cookie).2
  .ensureSession session.id ::
    if session.minted then [.number { app.ids with sessions := app.ids.sessions + 1 }]
    else [.refreshSession session.id]

theorem sessionFor_changes (app : App) (now : Instant) (cookie : Option String) :
    (app.sessionFor now cookie).1 = app.applyAll now (app.sessionChanges now cookie) := by
  unfold sessionChanges sessionFor Sessions.resolve
  split <;> rfl

def pageChanges (app : App) (now : Instant) (route : String) (cookie : Option String) :
    List Change :=
  match app.pages.get? route with
  | none => []
  | some page =>
    let resolved := app.sessionFor now cookie
    let id := IdSource.connectionId app.ids.connections
    app.sessionChanges now cookie ++
      [.number { resolved.1.ids with connections := app.ids.connections + 1 },
        .connect id (some resolved.2.id) page] ++
      match (app.loadPage now route cookie).2 with
      | .error (.viewPanicked _) => [.close id]
      | _ => []

theorem loadPage_changes (app : App) (now : Instant) (route : String) (cookie : Option String) :
    (app.loadPage now route cookie).1 = app.applyAll now (app.pageChanges now route cookie) := by
  unfold pageChanges
  cases routed : app.pages.get? route with
  | none => simp [loadPage, routed, applyAll]
  | some page =>
    simp only [applyAll_append, ← sessionFor_changes]
    have config : (app.sessionFor now cookie).1.config = app.config := rfl
    cases fresh : Connection.fresh? now (IdSource.connectionId app.ids.connections)
        (some (app.sessionFor now cookie).2.id) page app.config.patchQueueCapacity with
    | none => simp [loadPage_found routed, numbered, applyAll, apply, connect, config, fresh]
    | some connection =>
      simp only [loadPage_found routed, applyAll, apply, connect, config, fresh, List.foldl,
        Option.map, Option.getD]
      split <;> simp_all [apply, numbered]

/-- An action that the page does not know is looked for and no more. -/
def actionChanges (app : App) (now : Instant) (id action : String) (signals : KeyMap Json) :
    List Change :=
  let refreshed := (app.refresh now id).1
  match app.place? id, refreshed.lookup id with
  | some place, some connection =>
    app.refreshChanges id ++
      match connection.page.handler? action with
      | none => []
      | some handler =>
        [.work place .action
          (connection.actionDeeds refreshed.shared now action signals handler)]
  | _, _ => []

theorem runAction_changes (app : App) (now : Instant) (id action : String)
    (signals : KeyMap Json) :
    (app.runAction now id action signals).1 =
      app.applyAll now (app.actionChanges now id action signals) := by
  cases placed : app.place? id with
  | none => simp [runAction, actionChanges, placed, applyAll]
  | some place =>
    cases found : (app.refresh now id).1.lookup id with
    | none => simp [runAction, actionChanges, placed, found, applyAll]
    | some connection =>
      have still := (app.place?_refresh now id id).trans placed
      have there := found_of_lookup still found
      simp only [runAction, actionChanges, placed, found, applyAll_append, ← refresh_changes]
      cases known : connection.page.handler? action with
      | none =>
        have unknown := Connection.runAction_unknown known (app.refresh now id).1.shared now signals
        rw [unknown.1, unknown.2, setConnection_same there]
        rfl
      | some handler =>
        have done := Connection.runAction_deeds known (app.refresh now id).1.shared now signals
        rw [done.1, done.2]
        simp [applyAll, apply, work, there]

def requestChanges (app : App) (now : Instant) (action payload : String) : List Change :=
  match ClientRequest.parse payload with
  | .error _ => []
  | .ok request => app.actionChanges now request.connection action request.signals

theorem runRequest_changes (app : App) (now : Instant) (action payload : String) :
    (app.runRequest now action payload).1 =
      app.applyAll now (app.requestChanges now action payload) := by
  unfold runRequest requestChanges
  cases ClientRequest.parse payload with
  | error refused => rfl
  | ok request => exact runAction_changes app now request.connection action request.signals

def subscribeChanges (app : App) (id : String) : List Change :=
  match app.place? id with
  | none => []
  | some place => app.refreshChanges id ++ [.subscribe place]

theorem subscribe_changes (app : App) (now : Instant) (id : String) :
    (app.subscribe now id).1 = app.applyAll now (app.subscribeChanges id) := by
  unfold subscribe subscribeChanges
  cases app.place? id with
  | none => rfl
  | some place =>
    rw [applyAll_append, ← refresh_changes]
    rfl

def takeChanges (app : App) (channel : PushChannel) : Nat → List Change
  | 0 => []
  | limit + 1 =>
    .poll channel ::
      match app.poll channel with
      | (after, .item _) => after.takeChanges channel limit
      | _ => []

theorem takeChanges_all {kind : Change → Bool} {channel : PushChannel}
    (polls : kind (.poll channel) = true) (app : App) (limit : Nat) :
    (app.takeChanges channel limit).all kind = true := by
  induction limit generalizing app with
  | zero => rfl
  | succ limit ih =>
    rw [takeChanges, List.all_cons, polls, Bool.true_and]
    cases app.poll channel with
    | mk after found =>
      cases found with
      | item patch => exact ih after
      | pending => rfl
      | ended => rfl

theorem take_changes (app : App) (now : Instant) (channel : PushChannel) (limit : Nat) :
    (app.take channel limit).1 = app.applyAll now (app.takeChanges channel limit) := by
  induction limit generalizing app with
  | zero => rfl
  | succ limit ih =>
    unfold take takeChanges
    cases polled : app.poll channel with
    | mk after found =>
      have moved : app.apply now (.poll channel) = after := congrArg Prod.fst polled
      cases found with
      | item patch => simpa [applyAll, moved] using ih after
      | pending => simp [applyAll, moved]
      | ended => simp [applyAll, moved]

end App

namespace Http

def closeChanges (body : Bytes) : List Change :=
  match Text.Utf8.decodeExact? body with
  | none => []
  | some text => [.close (Text.trim text)]

def eventsChanges (app : App) (query : List Char) : List Change :=
  match parameter query "tab" with
  | .ok (some id) => app.subscribeChanges id
  | _ => []

def actionChanges (app : App) (now : Instant) (segment query : List Char) : List Change :=
  match Text.Utf8.decodeExact? (Text.Percent.decode (Text.Utf8.encodeChars segment)),
      parameter query "payload" with
  | some action, .ok (some payload) => app.requestChanges now action payload
  | _, _ => []

def changes (app : App) (now : Instant) (request : Request) : List Change :=
  let (path, query) := pathAndQuery request.target
  let reads := request.method == "GET" || request.method == "HEAD"
  match endpoint? app path with
  | none => []
  | some .close => if request.method == "POST" then closeChanges request.body else []
  | some (.page route) =>
    if reads then
      app.pageChanges now route (sessionFrom (cookieHeaders request) app.config.cookieName)
    else []
  | some .pushChannel => if reads then eventsChanges app query else []
  | some .action => if reads then actionChanges app now (actionSegment path) query else []

theorem servePage_app (app : App) (now : Instant) (route : String) (request : Request) :
    (servePage app now route request).1 =
      (app.loadPage now route
        (sessionFrom (cookieHeaders request) app.config.cookieName)).1 := by
  unfold servePage
  dsimp only
  split
  · next loaded =>
    rw [loaded]
    dsimp only
    split
    · split <;> rfl
    · rfl
  · next loaded => rw [loaded]
  · next loaded => rw [loaded]

theorem serveEvents_changes (app : App) (now : Instant) (query : List Char) :
    (serveEvents app now query).1 = app.applyAll now (eventsChanges app query) := by
  unfold serveEvents eventsChanges
  cases parameter query "tab" with
  | error refused => rfl
  | ok named =>
    cases named with
    | none => rfl
    | some id =>
      simp only [← App.subscribe_changes]
      split <;> next opened => rw [opened]

theorem serveAction_changes (app : App) (now : Instant) (segment query : List Char) :
    (serveAction app now segment query).1 =
      app.applyAll now (actionChanges app now segment query) := by
  unfold serveAction actionChanges
  cases Text.Utf8.decodeExact? (Text.Percent.decode (Text.Utf8.encodeChars segment)) with
  | none => rfl
  | some action =>
    cases parameter query "payload" with
    | error refused => rfl
    | ok sent =>
      cases sent with
      | none => rfl
      | some payload =>
        simp only [← App.runRequest_changes]
        split <;> next done => rw [done]

theorem serveClose_changes (app : App) (now : Instant) (body : Bytes) :
    (serveClose app body).1 = app.applyAll now (closeChanges body) := by
  unfold serveClose closeChanges
  cases Text.Utf8.decodeExact? body <;> rfl

theorem handle_changes (app : App) (now : Instant) (request : Request) :
    (handle app now request).1 = app.applyAll now (changes app now request) := by
  have same (served : App × List Note × Response) (head : Bool) :
      (if head then (served.1, served.2.1, served.2.2.headOnly) else served).1 = served.1 := by
    cases head <;> rfl
  simp only [handle, changes]
  rw [same]
  cases endpoint? app (pathAndQuery request.target).1 with
  | none => rfl
  | some endpoint =>
    cases endpoint with
    | close =>
      dsimp only
      split
      · exact serveClose_changes app now request.body
      · rfl
    | page route =>
      dsimp only
      split
      · rw [← App.loadPage_changes]
        exact servePage_app app now route request
      · rfl
    | pushChannel =>
      dsimp only
      split
      · exact serveEvents_changes app now _
      · rfl
    | action =>
      dsimp only
      split
      · exact serveAction_changes app now _ _
      · rfl

end Http
namespace Scenario

def pollChanges (scenario : Scenario) (number : Nat) (limit : Option Nat) : List Change :=
  match scenario.listeners[number]? with
  | none => []
  | some listener =>
    if limit = some 0 ∨ listener.dropped = true then []
    else scenario.app.takeChanges listener.channel
      (limit.getD (scenario.app.readyLimit listener.channel))

def directChanges (scenario : Scenario) (now : Instant) (target : Target) (mode : Mode)
    (action : String) (body : List DirectStatement) : List Change :=
  match scenario.find? target with
  | none => []
  | some (place, connection) =>
    [.work place mode ((connection.scene scenario.app.shared mode).directDeeds
      connection.page.knowsSignal (Page.invocation connection.page action now) body)]

def changes (scenario : Scenario) (now : Instant) : Step → List Change
  | .render route cookie => scenario.app.pageChanges now route cookie
  | .runRequest action payload => scenario.app.requestChanges now action payload
  | .runAction id action signals => scenario.app.actionChanges now id action signals
  | .create id session page => [.connect id session page]
  | .subscribe id => scenario.app.subscribeChanges id
  | .subscribeTo target => (scenario.place? target).toList.map .subscribe
  | .poll number limit => scenario.pollChanges number limit
  | .pop target => (scenario.find? target).toList.map fun found => .pop found.1
  | .drain target => (scenario.find? target).toList.map fun found => .drain found.1
  | .direct target mode action body => scenario.directChanges now target mode action body
  | .close id => [.close id]
  | .refresh id => scenario.app.refreshChanges id
  | .sweep instant ttl => [.sweep instant ttl]
  | .sweepNow ttl => [.sweep now ttl]
  | .runSweeper ttl =>
    if ttl = some 0 ∧ scenario.app.registered.isEmpty = false then [.sweep now 0] else []
  | .resolve cookie => scenario.app.sessionChanges now cookie
  | .setSession session key value => [.setSession session key value]
  | .refreshSession session => [.refreshSession session]
  | .refuseSession session => [.refuseSession session]
  | .setApplication key value => [.setApplication key value]
  | .request request => Http.changes scenario.app now request
  | .dropChannel _ => []
  | .inspect _ => []
  | .hold _ => []
  | .stats => []
  | .session _ _ => []
  | .application _ => []

theorem listenAnswer_app (scenario : Scenario) (opened : App × Option PushChannel) :
    (scenario.listenAnswer opened).scenario.app = opened.1 := by
  unfold listenAnswer
  cases opened.2 <;> rfl

theorem found_of_find? {scenario : Scenario} {target : Target} {place : Nat}
    {connection : Connection} (found : scenario.find? target = some (place, connection)) :
    scenario.app.connections[place]? = some connection := by
  obtain ⟨there, _, held⟩ := Option.bind_eq_some_iff.mp found
  obtain ⟨inside, at_place, same⟩ := Option.map_eq_some_iff.mp held
  obtain ⟨rfl, rfl⟩ := Prod.mk.inj same
  exact at_place

theorem onConnection_app (scenario : Scenario) (target : Target)
    (act : Connection → Connection × Answer) :
    (scenario.onConnection target act).scenario.app =
      match scenario.find? target with
      | none => scenario.app
      | some (place, _) => scenario.app.modify place fun connection => (act connection).1 := by
  unfold onConnection
  cases found : scenario.find? target with
  | none => rfl
  | some there =>
    obtain ⟨place, connection⟩ := there
    exact App.setConnection_eq_modify (found_of_find? found) fun connection => (act connection).1

theorem poll_changes (scenario : Scenario) (now : Instant) (number : Nat) (limit : Option Nat) :
    (scenario.poll number limit).scenario.app =
      scenario.app.applyAll now (scenario.pollChanges number limit) := by
  unfold poll pollChanges
  cases scenario.listeners[number]? with
  | none => rfl
  | some listener =>
    by_cases nothing : limit = some 0
    · simp [nothing, answered, App.applyAll]
    · cases dropped : listener.dropped with
      | true => simp [nothing, dropped, answered, App.applyAll]
      | false =>
        simp [nothing, dropped, answered, withApp, App.take_changes scenario.app now]

theorem direct_changes (scenario : Scenario) (now : Instant) (target : Target) (mode : Mode)
    (action : String) (body : List DirectStatement) :
    (scenario.direct now target mode action body).scenario.app =
      scenario.app.applyAll now (scenario.directChanges now target mode action body) := by
  unfold direct directChanges
  cases found : scenario.find? target with
  | none => rfl
  | some there =>
    obtain ⟨place, connection⟩ := there
    have done := connection.direct_work scenario.app.shared now mode action body
    simp [App.applyAll, App.apply, App.work, found_of_find? found, answered, withApp, done.1, done.2]

theorem serve_app (scenario : Scenario) (now : Instant) (request : Http.Request) :
    (scenario.serve now request).scenario.app = (Http.handle scenario.app now request).1 := by
  unfold serve
  dsimp only
  split <;> rfl

/-- A step does to the application what its changes do. -/
theorem step_changes (scenario : Scenario) (now : Instant) (step : Step) :
    (scenario.step now step).scenario.app =
      scenario.app.applyAll now (scenario.changes now step) := by
  cases step with
  | render route cookie =>
    rw [changes, ← App.loadPage_changes, Scenario.step]
    split <;> next loaded => rw [loaded]; rfl
  | runRequest action payload =>
    rw [changes, ← App.runRequest_changes, Scenario.step]
    split <;> next done => rw [done]; rfl
  | runAction id action signals => exact App.runAction_changes scenario.app now id action signals
  | create id session page =>
    rw [changes, Scenario.step]
    cases made : scenario.app.connect now id session page <;>
      simp [made, App.applyAll, App.apply, answered, withApp]
  | subscribe id =>
    rw [changes, ← App.subscribe_changes]
    exact listenAnswer_app scenario _
  | subscribeTo target =>
    rw [changes, Scenario.step]
    cases scenario.place? target with
    | none => rfl
    | some place => exact listenAnswer_app scenario _
  | poll number limit => exact poll_changes scenario now number limit
  | pop target =>
    rw [changes, Scenario.step, onConnection_app]
    cases scenario.find? target <;> rfl
  | drain target =>
    rw [changes, Scenario.step, onConnection_app]
    cases scenario.find? target <;> rfl
  | direct target mode action body => exact direct_changes scenario now target mode action body
  | refresh id => exact App.refresh_changes scenario.app now id
  | runSweeper ttl =>
    simp only [changes, Scenario.step, App.runSweeper]
    split <;> rfl
  | resolve cookie => exact App.sessionFor_changes scenario.app now cookie
  | request request => exact (serve_app scenario now request).trans (Http.handle_changes _ now request)
  | inspect target =>
    rw [changes, Scenario.step]
    cases scenario.find? target <;> rfl
  | hold target =>
    rw [changes, Scenario.step, hold]
    cases scenario.place? target <;> rfl
  | close id => rfl
  | sweep instant ttl => rfl
  | sweepNow ttl => rfl
  | setSession session key value => rfl
  | refreshSession session => rfl
  | refuseSession session => rfl
  | setApplication key value => rfl
  | dropChannel number => rfl
  | stats => rfl
  | session id key => rfl
  | application key => rfl

/-- Where steps lead, each at an instant of its own. -/
def reached (scenario : Scenario) (steps : List (Instant × Step)) : Scenario :=
  steps.foldl (fun scenario step => (scenario.step step.1 step.2).scenario) scenario

end Scenario

-- What every change keeps, every run keeps.
theorem App.applyAll_induction {motive : App → Prop} (now : Instant)
    (change : ∀ app change, motive app → motive (App.apply now app change)) (app : App)
    (changes : List Change) (start : motive app) : motive (app.applyAll now changes) := by
  induction changes generalizing app with
  | nil => exact start
  | cons first rest ih => exact ih _ (change app first start)

theorem Scenario.reached_induction {motive : App → Prop}
    (change : ∀ now app change, motive app → motive (App.apply now app change))
    (scenario : Scenario) (steps : List (Instant × Step)) (start : motive scenario.app) :
    motive (scenario.reached steps).app := by
  induction steps generalizing scenario with
  | nil => exact start
  | cons first rest ih =>
    apply ih
    rw [step_changes]
    exact App.applyAll_induction first.1 (change first.1) _ _ start

/-! Histories: what the changes of a run give rise to, in order. -/

/-- What each change gives rise to where it finds the application. -/
def App.along {α : Type} (now : Instant) (events : App → Change → List α) (app : App) :
    List Change → List α
  | [] => []
  | change :: rest => events app change ++ (app.apply now change).along now events rest

def Scenario.along {α : Type} (events : Instant → App → Change → List α) (scenario : Scenario) :
    List (Instant × Step) → List α
  | [] => []
  | step :: rest =>
    scenario.app.along step.1 (events step.1) (scenario.changes step.1 step.2) ++
      (scenario.step step.1 step.2).scenario.along events rest

section Along
variable {σ α : Type} (kept : App → Prop) (view : App → σ) {leaves : σ → α → σ}

-- A view that each change takes along its events is taken along the whole history.
theorem App.applyAll_along {events : App → Change → List α} (now : Instant)
    (keeps : ∀ app change, kept app → kept (App.apply now app change))
    (follows : ∀ app change, kept app →
      view (App.apply now app change) = (events app change).foldl leaves (view app))
    (app : App) (changes : List Change) (start : kept app) :
    view (app.applyAll now changes) =
      (app.along now events changes).foldl leaves (view app) := by
  induction changes generalizing app with
  | nil => rfl
  | cons change rest ih =>
    rw [along, List.foldl_append, ← follows app change start]
    exact ih _ (keeps app change start)

theorem Scenario.reached_along {events : Instant → App → Change → List α}
    (keeps : ∀ now app change, kept app → kept (App.apply now app change))
    (follows : ∀ now app change, kept app →
      view (App.apply now app change) = (events now app change).foldl leaves (view app))
    (scenario : Scenario) (steps : List (Instant × Step)) (start : kept scenario.app) :
    view (scenario.reached steps).app =
      (scenario.along events steps).foldl leaves (view scenario.app) := by
  induction steps generalizing scenario with
  | nil => rfl
  | cons step rest ih =>
    have stepped := App.applyAll_along kept view step.1 (keeps step.1) (follows step.1) scenario.app
      (scenario.changes step.1 step.2) start
    have still : kept (scenario.step step.1 step.2).scenario.app := by
      rw [step_changes]
      exact App.applyAll_induction step.1 (keeps step.1) _ _ start
    rw [along, List.foldl_append, ← stepped, ← step_changes]
    exact ih _ still

-- Whatever stands in a history was given rise to by one of the changes.
theorem App.mem_along {events : App → Change → List α} {now : Instant} {app : App}
    {changes : List Change} {event : α} (member : event ∈ app.along now events changes) :
    ∃ before, ∃ change ∈ changes, event ∈ events before change := by
  induction changes generalizing app with
  | nil => nomatch member
  | cons change rest ih =>
    rcases List.mem_append.mp member with here | later
    · exact ⟨app, change, List.mem_cons_self, here⟩
    · obtain ⟨before, other, listed, there⟩ := ih later
      exact ⟨before, other, List.mem_cons_of_mem _ listed, there⟩

end Along

end LiveTabs
