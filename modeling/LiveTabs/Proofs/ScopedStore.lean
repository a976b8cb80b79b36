import LiveTabs.Proofs.Continuity
/-!
The three scopes are one store. It has a container for each tab, for each session and for the
application; a write goes to one key of one container, and a session's container is emptied when
the session is refused or swept away. What a handle reads is what was written last.
-/
namespace LiveTabs

inductive Container where
  | tab (place : Nat)
  | session (id : String)
  | application
  deriving DecidableEq

inductive StoreEvent where
  | wrote (container : Container) (key : String) (value : Json)
  | emptied (session : String)

namespace StoreEvent

/-- What a key of a container has after an event, when it had `found` before. -/
def leaves (container : Container) (key : String) (found : Option Json) : StoreEvent → Option Json
  | .wrote other written value => if container = other ∧ key = written then some value else found
  | .emptied session => if container = .session session then none else found

def Touches (container : Container) (key : String) : StoreEvent → Prop
  | .wrote other written _ => container = other ∧ key = written
  | .emptied session => container = .session session

end StoreEvent

def latest (container : Container) (key : String) (found : Option Json)
    (events : List StoreEvent) : Option Json :=
  events.foldl (StoreEvent.leaves container key) found

theorem latest_append (container : Container) (key : String) (found : Option Json)
    (first later : List StoreEvent) :
    latest container key found (first ++ later) =
      latest container key (latest container key found first) later := by
  simp [latest]

theorem latest_untouched (container : Container) (key : String) (found : Option Json)
    (events : List StoreEvent) (apart : ∀ event ∈ events, ¬ event.Touches container key) :
    latest container key found events = found := by
  induction events generalizing found with
  | nil => rfl
  | cons event rest ih =>
    have first := apart event List.mem_cons_self
    have unchanged : event.leaves container key found = found := by
      cases event with
      | wrote other written value => exact if_neg first
      | emptied session => exact if_neg first
    rw [latest, List.foldl_cons, unchanged]
    exact ih found fun other member => apart other (List.mem_cons_of_mem _ member)

/-- What the containers hold: the tabs' values by place, and the shared ones. -/
def holding (tabs : Nat → Option (KeyMap Json)) (shared : Shared) (container : Container)
    (key : String) : Option Json :=
  match container with
  | .tab place => (tabs place).bind fun values => values.get? key
  | .session id => shared.sessions.held? id key
  | .application => shared.application.get? key

def withTab (tabs : Nat → Option (KeyMap Json)) (place : Nat) (values : KeyMap Json) :
    Nat → Option (KeyMap Json) :=
  fun other => if other = place then some values else tabs other

/-- Where a scope keeps the values of the tab at a place. Without a session there is nowhere to keep
a session's. -/
def containerOf? (place : Nat) (session : Option String) : Scope → Option Container
  | .connection => some (.tab place)
  | .session => session.map .session
  | .application => some .application

namespace Scene

def writeEvents (scene : Scene) (now : Instant) (place : Nat) (scope : Scope) (key : String)
    (written : Json) : List StoreEvent :=
  if (scene.store now scope key written).2 then
    (containerOf? place scene.session scope).toList.map fun container => .wrote container key written
  else []

def storeEvents (now : Instant) (place : Nat) (scene : Scene) : Deed → List StoreEvent
  | .write scope key written => scene.writeEvents now place scope key written
  | .refuse => scene.session.toList.map .emptied
  | .takeOver _ => []
  | .signal _ _ => []
  | .elements _ => []
  | .script _ => []
  | .flush => []

def allStoreEvents (now : Instant) (place : Nat) (scene : Scene) : List Deed → List StoreEvent
  | [] => []
  | deed :: rest =>
    scene.storeEvents now place deed ++ (scene.carryOut now deed).allStoreEvents now place rest

def holds (scene : Scene) (place : Nat) (tabs : Nat → Option (KeyMap Json)) :
    Container → String → Option Json :=
  holding (withTab tabs place scene.tab.values) scene.shared

theorem store_holds (scene : Scene) (now : Instant) (place : Nat)
    (tabs : Nat → Option (KeyMap Json)) (scope : Scope) (key : String) (written : Json)
    (container : Container) (asked : String) :
    (scene.store now scope key written).1.holds place tabs container asked =
      latest container asked (scene.holds place tabs container asked)
        (scene.writeEvents now place scope key written) := by
  cases scope with
  | connection =>
    cases container with
    | tab other =>
      by_cases here : other = place <;>
        simp [store, holds, holding, withTab, writeEvents, containerOf?, latest, StoreEvent.leaves,
          here]
    | session id => simp [store, holds, holding, writeEvents, containerOf?, latest, StoreEvent.leaves]
    | application => simp [store, holds, holding, writeEvents, containerOf?, latest, StoreEvent.leaves]
  | application =>
    cases container <;>
      simp [store, holds, holding, writeEvents, containerOf?, latest, StoreEvent.leaves]
  | session =>
    cases session : scene.session with
    | none => simp [store, session, writeEvents, latest]
    | some id =>
      have held := scene.shared.sessions.held?_set now id key written
      cases accepted : (scene.shared.sessions.set now id key written).2 <;>
        cases container <;>
          simp [store, session, holds, holding, withSessions, writeEvents, containerOf?, latest,
            StoreEvent.leaves, accepted, held]

-- A write is either accepted and recorded, or it is refused and nothing has changed.
theorem store_recorded (scene : Scene) (now : Instant) (place : Nat) (scope : Scope)
    (key : String) (written : Json) :
    (∃ container, containerOf? place scene.session scope = some container ∧
        (scene.store now scope key written).2 = true ∧
        scene.writeEvents now place scope key written = [.wrote container key written]) ∨
      scene.store now scope key written = (scene, false) ∧
        scene.writeEvents now place scope key written = [] := by
  cases scope with
  | connection => exact .inl ⟨.tab place, rfl, rfl, rfl⟩
  | application => exact .inl ⟨.application, rfl, rfl, rfl⟩
  | session =>
    cases session : scene.session with
    | none => exact .inr (by simp [store, session, writeEvents])
    | some id =>
      cases refused : scene.shared.sessions.isRefused id with
      | true =>
        have same : scene.withSessions scene.shared.sessions = scene := rfl
        exact .inr (by simp [store, session, writeEvents, Sessions.set, refused, same])
      | false =>
        exact .inl ⟨.session id, by
          simp [store, session, writeEvents, Sessions.set, refused, containerOf?]⟩

theorem deed_holds (scene : Scene) (now : Instant) (place : Nat)
    (tabs : Nat → Option (KeyMap Json)) (deed : Deed) (container : Container) (key : String) :
    (scene.carryOut now deed).holds place tabs container key =
      latest container key (scene.holds place tabs container key)
        (scene.storeEvents now place deed) := by
  cases deed with
  | write scope written value =>
    exact store_holds scene now place tabs scope written value container key
  | refuse =>
    cases session : scene.session with
    | none => simp [carryOut, refuseSession, session, storeEvents, latest]
    | some id =>
      cases container <;>
        simp [carryOut, refuseSession, session, storeEvents, latest, StoreEvent.leaves, holds,
          holding, withSessions, Sessions.held?_refuse]
  | flush =>
    cases changed : scene.tab.changed.isEmpty <;>
      simp [carryOut, offerChanged, changed, storeEvents, latest, holds, enqueue]
  | takeOver taken => rfl
  | signal written value => rfl
  | elements html => rfl
  | script text => rfl

theorem deeds_hold (scene : Scene) (now : Instant) (place : Nat)
    (tabs : Nat → Option (KeyMap Json)) (deeds : List Deed) (container : Container)
    (key : String) :
    (scene.carryOutAll now deeds).holds place tabs container key =
      latest container key (scene.holds place tabs container key)
        (scene.allStoreEvents now place deeds) := by
  induction deeds generalizing scene with
  | nil => rfl
  | cons deed rest ih =>
    rw [allStoreEvents, latest_append, ← deed_holds]
    exact ih (scene.carryOut now deed)

end Scene

theorem latest_emptied (container : Container) (key : String) (found : Option Json)
    (ids : List String) :
    latest container key found (ids.map .emptied) =
      if ∃ id ∈ ids, container = .session id then none else found := by
  induction ids generalizing found with
  | nil => simp [latest]
  | cons id rest ih =>
    have step := ih (StoreEvent.leaves container key found (.emptied id))
    rw [List.map_cons, latest, List.foldl_cons]
    refine Eq.trans step ?_
    by_cases here : container = .session id <;> simp [StoreEvent.leaves, here]

namespace App

def tabs (app : App) (place : Nat) : Option (KeyMap Json) :=
  (app.connections[place]?).map fun connection => connection.tab.values

def holds (app : App) : Container → String → Option Json := holding app.tabs app.shared

/-- A new tab begins with the initial values of its page's connection states. -/
def seedEvents (app : App) (page : Page) : List StoreEvent :=
  (page.states.filter fun state => state.scope == .connection).map fun state =>
    .wrote (.tab app.connections.length) state.key state.initial

def sweepEvents (app : App) (now : Instant) : List StoreEvent :=
  (app.shared.sessions.live.keys.filter fun id =>
    !(app.shared.sessions.sweep now app.sessionWindow).contains id).map .emptied

def storeEvents (now : Instant) (app : App) : Change → List StoreEvent
  | .setSession id key value =>
    if (app.shared.sessions.set now id key value).2 then [.wrote (.session id) key value] else []
  | .refuseSession id => [.emptied id]
  | .setApplication key value => [.wrote .application key value]
  | .connect id session page =>
    if (app.connect now id session page).isSome then app.seedEvents page else []
  | .work place mode deeds =>
    match app.connections[place]? with
    | none => []
    | some connection => (connection.scene app.shared mode).allStoreEvents now place deeds
  | .sweep instant _ => app.sweepEvents instant
  | .ensureSession _ => []
  | .refreshSession _ => []
  | .number _ => []
  | .touch _ => []
  | .subscribe _ => []
  | .poll _ => []
  | .pop _ => []
  | .drain _ => []
  | .close _ => []

theorem modify_tabs (app : App) (place : Nat) (change : Connection → Connection)
    (kept : ∀ connection, (change connection).tab = connection.tab) :
    (app.modify place change).tabs = app.tabs := by
  funext other
  simp only [tabs, modify, List.getElem?_modify]
  cases app.connections[other]? with
  | none => rfl
  | some connection => by_cases here : place = other <;> simp [here, kept]

theorem modify_holds (app : App) (place : Nat) (change : Connection → Connection)
    (kept : ∀ connection, (change connection).tab = connection.tab) :
    (app.modify place change).holds = app.holds :=
  congrArg (holding · app.shared) (app.modify_tabs place change kept)

theorem withTab_same {app : App} {place : Nat} {connection : Connection}
    (found : app.connections[place]? = some connection) :
    withTab app.tabs place connection.tab.values = app.tabs := by
  funext other
  by_cases here : other = place
  · subst here
    simp [withTab, tabs, found]
  · simp [withTab, here]

theorem setConnection_tabs {app : App} {place : Nat} {connection : Connection}
    (found : app.connections[place]? = some connection) (other : Connection) :
    (app.setConnection place other).tabs = withTab app.tabs place other.tab.values := by
  obtain ⟨inside, _⟩ := List.getElem?_eq_some_iff.mp found
  funext asked
  simp only [tabs, setConnection, withTab, List.getElem?_set]
  by_cases here : asked = place
  · subst here
    simp [inside]
  · simp [here, Ne.symm here]

theorem register_tabs (app : App) (connection : Connection) :
    (app.register connection).tabs =
      withTab app.tabs app.connections.length connection.tab.values := by
  obtain ⟨replaced, before, registered⟩ := app.register_cases connection
  -- Shutting down the connection that it replaces changes no values.
  have length : replaced.connections.length = app.connections.length := by
    rcases before with rfl | ⟨place, -, rfl⟩
    · rfl
    · simp [modify]
  have same : replaced.tabs = app.tabs := by
    rcases before with rfl | ⟨place, -, rfl⟩
    · rfl
    · exact app.modify_tabs place Connection.retire fun _ => rfl
  funext asked
  rw [registered, ← same, ← length]
  simp only [tabs, withTab, List.getElem?_append]
  by_cases here : asked = replaced.connections.length
  · simp [here]
  · by_cases inside : asked < replaced.connections.length
    · simp [here, inside]
    · have beyond : replaced.connections.length ≤ asked := Nat.le_of_not_lt inside
      have after : 1 ≤ asked - replaced.connections.length := by omega
      simp [here, inside, List.getElem?_eq_none, after]

theorem latest_seeded (app : App) (page : Page) (container : Container) (key : String) :
    latest container key (app.holds container key) (app.seedEvents page) =
      holding (withTab app.tabs app.connections.length (Tab.fresh page.toCatalog).values) app.shared
        container key := by
  have apart (event : StoreEvent) (member : event ∈ app.seedEvents page)
      (other : container ≠ .tab app.connections.length) : ¬ event.Touches container key := by
    obtain ⟨state, _, rfl⟩ := List.mem_map.mp member
    exact fun touched => other touched.1
  cases container with
  | session id => exact latest_untouched _ _ _ _ fun event member => apart event member nofun
  | application => exact latest_untouched _ _ _ _ fun event member => apart event member nofun
  | tab place =>
    by_cases here : place = app.connections.length
    · subst here
      have nothing : app.holds (.tab app.connections.length) key = none := by
        simp [holds, holding, tabs]
      rw [nothing, latest, seedEvents, List.foldl_map]
      simp only [holding, withTab, if_true, Option.bind_some, Tab.fresh, KeyMap.ofList,
        KeyMap.get?_insertAll, KeyMap.get?_empty, List.foldl_map]
      simp [StoreEvent.leaves]
    · rw [latest_untouched _ _ _ _ fun event member => apart event member (by simpa using here)]
      simp [holds, holding, withTab, here]

theorem connect_holds (app : App) (now : Instant) (id : String) (session : Option String)
    (page : Page) (container : Container) (key : String) :
    (app.apply now (.connect id session page)).holds container key =
      latest container key (app.holds container key)
        (app.storeEvents now (.connect id session page)) := by
  cases fresh : Connection.fresh? now id session page app.config.patchQueueCapacity with
  | none => simp [apply, storeEvents, connect, fresh, latest]
  | some connection =>
    have tab := (Connection.fresh?_starts fresh).1
    simp only [apply, storeEvents, connect, fresh, Option.map_some, Option.getD_some,
      Option.isSome_some, if_true]
    rw [latest_seeded, holds, register_tabs, register_shared, tab]

theorem work_holds (app : App) (now : Instant) (place : Nat) (mode : Mode) (deeds : List Deed)
    (container : Container) (key : String) :
    (app.work now place mode deeds).holds container key =
      latest container key (app.holds container key)
        (app.storeEvents now (.work place mode deeds)) := by
  cases found : app.connections[place]? with
  | none => simp [work, storeEvents, found, latest]
  | some connection =>
    have done := (connection.scene app.shared mode).deeds_hold now place app.tabs deeds container
      key
    have begun : (connection.scene app.shared mode).holds place app.tabs = app.holds :=
      congrArg (holding · app.shared) (withTab_same found)
    rw [begun] at done
    simp only [work, storeEvents, found]
    rw [← done, holds]
    have tabs := setConnection_tabs found (connection.work app.shared now mode deeds).1
    exact congrFun (congrFun (congrArg
      (holding · (connection.work app.shared now mode deeds).2) tabs) container) key

theorem close_holds (app : App) (id : String) : (app.close id).1.holds = app.holds := by
  obtain ⟨-, closed⟩ | ⟨place, -, closed⟩ := app.close_cases id
  · rw [closed]
  · rw [closed]
    exact app.modify_holds place Connection.retire fun _ => rfl

theorem retired_tabs (app : App) (gone : List (String × Nat)) :
    (gone.foldl (fun app entry => app.modify entry.2 Connection.retire) app).tabs = app.tabs := by
  apply retired_induction (motive := fun after => after.tabs = app.tabs)
  · intro after place same
    exact (after.modify_tabs place Connection.retire fun _ => rfl).trans same
  · rfl

theorem sweep_holds (app : App) (now : Instant) (ttl : Duration) (container : Container)
    (key : String) :
    (app.sweep now ttl).1.holds container key =
      latest container key (app.holds container key) (app.sweepEvents now) := by
  let gone := app.registered.filter fun _ place => app.isExpired now ttl place
  rw [sweepEvents, latest_emptied]
  cases container with
  | tab place =>
    rw [if_neg (by simp)]
    exact congrArg (fun tabs => (tabs place).bind fun values => values.get? key)
      (app.retired_tabs gone.entries)
  | application =>
    rw [if_neg (by simp)]
    have same := congrArg App.shared (app.retired_rest gone.entries)
    exact congrArg (fun shared => shared.application.get? key) same
  | session id =>
    have swept := app.shared.sessions.held?_sweep now app.sessionWindow id key
    refine Eq.trans swept ?_
    cases stays : (app.shared.sessions.sweep now app.sessionWindow).contains id with
    | true => simp [stays, holds, holding]
    | false =>
      cases lived : app.shared.sessions.live.get? id with
      | none => simp [stays, holds, holding, Sessions.held?, lived]
      | some session => simp [stays, KeyMap.mem_keys_iff, lived]

/-- A change leaves in every container what was written there last. -/
theorem apply_holds (app : App) (now : Instant) (change : Change) (container : Container)
    (key : String) :
    (app.apply now change).holds container key =
      latest container key (app.holds container key) (app.storeEvents now change) := by
  have kept {after : App} (same : after.holds = app.holds) :
      after.holds container key = app.holds container key := by rw [same]
  cases change with
  | ensureSession id =>
    cases container with
    | tab place => rfl
    | session other => exact app.shared.sessions.held?_ensure now id other key
    | application => rfl
  | refreshSession id =>
    cases container with
    | tab place => rfl
    | session other => exact app.shared.sessions.held?_refresh now id other key
    | application => rfl
  | setSession id written value =>
    have held := app.shared.sessions.held?_set now id written value
    cases accepted : (app.shared.sessions.set now id written value).2 <;> cases container <;>
      simp [apply, storeEvents, withSessions, holds, holding, latest, StoreEvent.leaves, accepted,
        held, tabs]
  | refuseSession id =>
    have held := app.shared.sessions.held?_refuse now id
    cases container <;>
      simp [apply, storeEvents, refuseSession, withSessions, holds, holding, latest,
        StoreEvent.leaves, held, tabs]
  | setApplication written value =>
    cases container <;>
      simp [apply, storeEvents, setApplication, holds, holding, latest, StoreEvent.leaves, tabs]
  | number ids => rfl
  | connect id session page => exact app.connect_holds now id session page container key
  | touch place => exact kept (app.modify_holds place _ fun _ => rfl)
  | work place mode deeds => exact app.work_holds now place mode deeds container key
  | subscribe place =>
    rw [apply, subscribeAt_eq_modify]
    exact kept (app.modify_holds place _ Connection.subscribe_tab)
  | poll channel =>
    rw [apply, poll_eq_modify]
    exact kept (app.modify_holds channel.place _ fun other => other.poll_tab channel.generation)
  | pop place => exact kept (app.modify_holds place _ fun _ => rfl)
  | drain place => exact kept (app.modify_holds place _ fun _ => rfl)
  | close id => exact kept (app.close_holds id)
  | sweep instant ttl => exact app.sweep_holds instant ttl container key

def allStoreEvents (now : Instant) (app : App) : List Change → List StoreEvent
  | [] => []
  | change :: rest => app.storeEvents now change ++ (app.apply now change).allStoreEvents now rest

theorem applyAll_holds (app : App) (now : Instant) (changes : List Change)
    (container : Container) (key : String) :
    (app.applyAll now changes).holds container key =
      latest container key (app.holds container key) (app.allStoreEvents now changes) := by
  induction changes generalizing app with
  | nil => rfl
  | cons change rest ih =>
    rw [allStoreEvents, latest_append, ← apply_holds]
    exact ih (app.apply now change)

end App

namespace Scenario

def storeEvents (scenario : Scenario) (now : Instant) (step : Step) : List StoreEvent :=
  scenario.app.allStoreEvents now (scenario.changes now step)

/-- Every value written and every session emptied, in order. -/
def storeHistory (scenario : Scenario) : List (Instant × Step) → List StoreEvent
  | [] => []
  | step :: rest =>
    scenario.storeEvents step.1 step.2 ++ (scenario.step step.1 step.2).scenario.storeHistory rest

theorem step_holds (scenario : Scenario) (now : Instant) (step : Step) (container : Container)
    (key : String) :
    (scenario.step now step).scenario.app.holds container key =
      latest container key (scenario.app.holds container key) (scenario.storeEvents now step) := by
  rw [step_changes]
  exact scenario.app.applyAll_holds now (scenario.changes now step) container key

theorem reached_holds (scenario : Scenario) (steps : List (Instant × Step))
    (container : Container) (key : String) :
    (scenario.reached steps).app.holds container key =
      latest container key (scenario.app.holds container key) (scenario.storeHistory steps) := by
  induction steps generalizing scenario with
  | nil => rfl
  | cons step rest ih =>
    rw [storeHistory, latest_append, ← step_holds]
    exact ih (scenario.step step.1 step.2).scenario

end Scenario

/-- What a handle shows of a stored value, or without one. -/
def State.shown {type : StoreType} (state : State type) (found : Option Json) : type.Carrier :=
  match found with
  | some stored => type.coerce stored state.initial
  | none => state.initial

theorem Scene.stateValue_shown {type : StoreType} {scene : Scene}
    (sealed : scene.shared.sessions.Sealed) (place : Nat) (tabs : Nat → Option (KeyMap Json))
    (state : State type) :
    scene.stateValue state =
      state.shown ((containerOf? place scene.session state.scope).bind fun container =>
        scene.holds place tabs container state.key) := by
  have found : scene.stored? state.scope state.key =
      (containerOf? place scene.session state.scope).bind fun container =>
        scene.holds place tabs container state.key := by
    cases state.scope with
    | connection => simp [stored?, containerOf?, holds, holding, withTab]
    | application => rfl
    | session =>
      cases session : scene.session with
      | none => simp [stored?, session, containerOf?]
      | some id => simp [stored?, session, containerOf?, holds, holding, Sessions.get?_eq_held? sealed]
  rw [stateValue, found]
  rfl

theorem App.stateValue_shown {type : StoreType} {app : App}
    (sealed : app.shared.sessions.Sealed) {place : Nat} {connection : Connection}
    (here : app.connections[place]? = some connection) (mode : Mode) (state : State type) :
    (connection.scene app.shared mode).stateValue state =
      state.shown ((containerOf? place connection.session state.scope).bind fun container =>
        app.holds container state.key) := by
  have same : (connection.scene app.shared mode).holds place app.tabs = app.holds :=
    congrArg (holding · app.shared) (withTab_same here)
  rw [Scene.stateValue_shown sealed place app.tabs, same]
  rfl

/-- A handle's write is accepted and recorded, or it is refused and nothing has changed. -/
theorem Scene.setState_recorded {type : StoreType} (scene : Scene) (now : Instant) (place : Nat)
    (state : State type) (value : type.Carrier) :
    (∃ container written, containerOf? place scene.session state.scope = some container ∧
        type.encode value = .ok written ∧ (scene.setState now state value).2 = true ∧
        scene.writeEvents now place state.scope state.key written =
          [.wrote container state.key written]) ∨
      scene.setState now state value = (scene, false) := by
  by_cases acting : scene.mayWrite = true
  · cases encoded : type.encode value with
    | error refused => exact .inr (by simp [setState, encoded])
    | ok written =>
      rcases scene.store_recorded now place state.scope state.key written with
        ⟨container, kept, accepted, recorded⟩ | ⟨refused, _⟩
      · exact .inl ⟨container, written, kept, rfl, by simp [setState, acting, encoded, accepted],
          recorded⟩
      · exact .inr (by simp [setState, encoded, refused])
  · exact .inr (by simp [setState, acting])

theorem Scene.setState_refused {type : StoreType} {scene : Scene}
    (nowhere : scene.session = none ∨
      ∃ id, scene.session = some id ∧ scene.shared.sessions.isRefused id = true)
    (now : Instant) {state : State type} (kept : state.scope = .session) (value : type.Carrier) :
    scene.setState now state value = (scene, false) := by
  have same : scene.withSessions scene.shared.sessions = scene := rfl
  have refused (written : Json) : scene.store now .session state.key written = (scene, false) := by
    rcases nowhere with none | ⟨id, session, refused⟩
    · simp [store, none]
    · simp [store, session, Sessions.set, refused, same]
  unfold setState
  rw [kept]
  cases type.encode value <;> simp [refused]

theorem App.build_fresh {config : Config} {pages : List Page} {app : App}
    (built : App.build config pages = .ok app) :
    ∃ routes, app = ⟨routes, config, Shared.empty, [], KeyMap.empty, ⟨0, 0⟩⟩ := by
  unfold App.build at built
  cases added : pages.foldlM addPage KeyMap.empty with
  | error refused =>
    rw [added] at built
    nomatch built
  | ok routes =>
    rw [added] at built
    exact ⟨routes, (Except.ok.inj built).symm⟩

theorem App.build_empty {config : Config} {pages : List Page} {app : App}
    (built : App.build config pages = .ok app) :
    app.connections = [] ∧ app.shared = Shared.empty := by
  obtain ⟨routes, rfl⟩ := build_fresh built
  exact ⟨rfl, rfl⟩

namespace Scenario
variable {config : Config} {pages : List Page} {app : App}

theorem reached_sealed (built : App.build config pages = .ok app)
    (steps : List (Instant × Step)) :
    ((ofApp app).reached steps).app.shared.sessions.Sealed := by
  apply reached_induction fun now app change sealed => app.apply_sealed now change sealed
  rw [ofApp, (App.build_empty built).2]
  exact Sessions.sealed_empty

theorem built_holds (built : App.build config pages = .ok app) (steps : List (Instant × Step))
    (container : Container) (key : String) :
    ((ofApp app).reached steps).app.holds container key =
      latest container key none ((ofApp app).storeHistory steps) := by
  obtain ⟨none, shared⟩ := App.build_empty built
  have nothing : (ofApp app).app.holds container key = Option.none := by
    cases container <;> simp [ofApp, App.holds, holding, App.tabs, none, shared, Shared.empty,
      Sessions.held?, Sessions.empty]
  rw [reached_holds, nothing]

/-- Within a handler, some of whose deeds are done, the containers hold what was written last. -/
theorem within_holds (built : App.build config pages = .ok app) (steps : List (Instant × Step))
    {place : Nat} {connection : Connection}
    (here : ((ofApp app).reached steps).app.connections[place]? = some connection) (mode : Mode)
    (signals : KeyMap Json) (now : Instant) (deeds : List Deed) (container : Container)
    (key : String) :
    let scenario := (ofApp app).reached steps
    let begun := (connection.scene scenario.app.shared mode).putSignals signals
    (begun.carryOutAll now deeds).holds place scenario.app.tabs container key =
      latest container key none
        ((ofApp app).storeHistory steps ++ begun.allStoreEvents now place deeds) := by
  intro scenario begun
  have before : begun.holds place scenario.app.tabs container key =
      latest container key none ((ofApp app).storeHistory steps) := by
    rw [← built_holds built steps container key]
    exact congrArg (holding · scenario.app.shared container key) (App.withTab_same here)
  rw [Scene.deeds_hold, before, ← latest_append]

theorem step_apart {scenario : Scenario} (sealed : scenario.app.shared.sessions.Sealed)
    {place : Nat} {connection later : Connection}
    (here : scenario.app.connections[place]? = some connection) (now : Instant) (step : Step)
    (there : (scenario.step now step).scenario.app.connections[place]? = some later)
    (continued : connection.Continues later) (mode : Mode) {type : StoreType} (state : State type)
    (apart : ∀ container, containerOf? place connection.session state.scope = some container →
      ∀ event ∈ scenario.storeEvents now step, ¬ event.Touches container state.key) :
    (later.scene (scenario.step now step).scenario.app.shared mode).stateValue state =
      (connection.scene scenario.app.shared mode).stateValue state := by
  have still := scenario.step_sealed now step sealed
  rw [App.stateValue_shown still there, App.stateValue_shown sealed here, continued.session]
  cases kept : containerOf? place connection.session state.scope with
  | none => rfl
  | some container =>
    have same := scenario.step_holds now step container state.key
    rw [latest_untouched _ _ _ _ (apart container kept)] at same
    exact congrArg state.shown same

end Scenario

/-- Wherever a run of the application has come, and at any point within a handler there, a handle
reads what was written last where its scope keeps it, and its own initial value if nothing was.
A write there is recorded or else changes nothing, and a session's value is refused without a
session or once the session is. What a step writes is seen by no handle on any other key or
container. -/
theorem scopes_refine_one_store (config : Config) (pages : List Page) (app : App)
    (built : App.build config pages = .ok app) (steps : List (Instant × Step)) (place : Nat)
    (connection : Connection)
    (here : ((Scenario.ofApp app).reached steps).app.connections[place]? = some connection) :
    let scenario := (Scenario.ofApp app).reached steps
    let history := (Scenario.ofApp app).storeHistory steps
    (∀ (mode : Mode) (signals : KeyMap Json) (invocation : Invocation) (done : Handler),
      let begun := (connection.scene scenario.app.shared mode).putSignals signals
      let scene := (begun.perform invocation done).scene
      let events := history ++
        begun.allStoreEvents invocation.now place (begun.handlerDeeds invocation done)
      (∀ (type : StoreType) (state : State type),
        scene.stateValue state =
          state.shown ((containerOf? place connection.session state.scope).bind fun container =>
            latest container state.key none events)) ∧
      ∀ (type : StoreType) (state : State type) (now : Instant) (value : type.Carrier),
        ((∃ container written,
            containerOf? place connection.session state.scope = some container ∧
            type.encode value = .ok written ∧ (scene.setState now state value).2 = true ∧
            scene.writeEvents now place state.scope state.key written =
              [.wrote container state.key written]) ∨
          scene.setState now state value = (scene, false)) ∧
        (state.scope = .session →
          (connection.session = none ∨ ∃ id, connection.session = some id ∧
            scene.shared.sessions.isRefused id = true) →
          scene.setState now state value = (scene, false))) ∧
    ∀ (now : Instant) (step : Step), ∃ later,
      (scenario.step now step).scenario.app.connections[place]? = some later ∧
      ∀ (mode : Mode) (type : StoreType) (state : State type),
        (∀ container, containerOf? place connection.session state.scope = some container →
          ∀ event ∈ scenario.storeEvents now step, ¬ event.Touches container state.key) →
        (later.scene (scenario.step now step).scenario.app.shared mode).stateValue state =
          (connection.scene scenario.app.shared mode).stateValue state := by
  intro scenario history
  have sealed := Scenario.reached_sealed built steps
  constructor
  · intro mode signals invocation done begun scene events
    have performed : scene = begun.carryOutAll invocation.now (begun.handlerDeeds invocation done) :=
      begun.perform_deeds invocation done
    have session : scene.session = connection.session := by
      rw [performed]
      exact begun.carryOutAll_session _ _
    refine ⟨fun type state => ?_, fun type state now value => ⟨?_, fun kept nowhere => ?_⟩⟩
    · have still : scene.shared.sessions.Sealed := by
        rw [performed]
        exact begun.carryOutAll_sealed _ _ sealed
      have after (container : Container) (key : String) :
          scene.holds place scenario.app.tabs container key =
            latest container key none events := by
        rw [performed]
        exact Scenario.within_holds built steps here mode signals _ _ container key
      rw [Scene.stateValue_shown still place scenario.app.tabs, session]
      simp only [after]
    · rw [← session]
      exact scene.setState_recorded now place state value
    · rw [← session] at nowhere
      exact Scene.setState_refused nowhere now kept value
  · intro now step
    obtain ⟨later, there, continued⟩ := scenario.step_continues now step place connection here
    exact ⟨later, there, fun mode type state apart =>
      Scenario.step_apart sealed here now step there continued mode state apart⟩

-- Two tabs of one session; the first logs in.
def memberHandle : State .string := ⟨"member", .session, "guest"⟩

def clubPage : Page := .of {
  id := "club"
  route := some "/"
  view := []
  states := [⟨"member", .str "guest", .session, none⟩]
  signals := []
  actions := KeyMap.ofList [
    ("join", [.set (some ⟨.string, memberHandle⟩) (.literal (.str "ann"))])]
  owners := KeyMap.empty
  components := [] }

def twoTabs : List (Instant × Step) :=
  [(1, .create "first" (some "s") clubPage), (3, .create "second" (some "s") clubPage),
    (5, .runAction "first" "join" KeyMap.empty)]

def clubApp : App :=
  ⟨KeyMap.ofList [("/", clubPage)], Config.defaults, Shared.empty, [], KeyMap.empty, ⟨0, 0⟩⟩

theorem scopes_refine_one_store_two_tabs :
    App.build Config.defaults [clubPage] = .ok clubApp ∧
      ∃ second, ((Scenario.ofApp clubApp).reached twoTabs).app.connections[1]? = some second ∧
        (second.scene ((Scenario.ofApp clubApp).reached twoTabs).app.shared .idle).stateValue
          memberHandle = "ann" := by
  refine ⟨rfl, _, rfl, ?_⟩
  have reads := (scopes_refine_one_store Config.defaults [clubPage] clubApp rfl twoTabs 1 _ rfl).1
    .idle KeyMap.empty (Page.invocation clubPage "join" 7) []
  exact (reads.1 .string memberHandle).trans rfl

end LiveTabs
