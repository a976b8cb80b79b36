import LiveTabs.Proofs.Logout
import LiveTabs.Proofs.Splicing
import LiveTabs.Proofs.Surroundings
/-!
A page whose view panics. Its connection is created and discarded again, and nothing leads to it
then; apart from that, the cookie's session has been resolved. Whatever is done afterwards comes out
as it would if that had been all.
-/
namespace LiveTabs

namespace Scene

/-- A part that panics, or an embedded component with such a part in it, at whatever depth. -/
inductive Panics (scene : Scene) : Part → Prop where
  | panic : Panics scene .panic
  | panicIf (handle : AnyState) : Panics scene (.panicIf handle (scene.presentState handle).text)
  | component (id : String) {part : Part} {parts : List Part} (inside : part ∈ parts)
    (panics : Panics scene part) : Panics scene (.component id parts)

theorem panics_component_iff (scene : Scene) (id : String) (parts : List Part) :
    scene.Panics (.component id parts) ↔ ∃ part ∈ parts, scene.Panics part := by
  constructor
  · rintro (_ | _ | ⟨-, inside, panics⟩)
    exact ⟨_, inside, panics⟩
  · rintro ⟨part, inside, panics⟩
    exact .component id inside panics

mutual

/-- What panics within a part is all that keeps the part from being rendered. -/
theorem renderPart_eq_none_iff (scene : Scene) (part : Part) :
    scene.renderPart part = none ↔ scene.Panics part := by
  cases part with
  | component id parts =>
    rw [renderPart, Option.map_eq_none_iff, panics_component_iff]
    exact renderParts_eq_none_iff scene parts
  | panicIf handle text =>
    rw [renderPart]
    constructor
    · intro failed
      split at failed
      · next shown => exact shown ▸ .panicIf handle
      · cases failed
    · rintro (_ | _)
      exact if_pos rfl
  | panic => exact iff_of_true rfl .panic
  | _ => exact iff_of_false nofun nofun

theorem renderParts_eq_none_iff (scene : Scene) (parts : List Part) :
    scene.renderParts parts = none ↔ ∃ part ∈ parts, scene.Panics part := by
  cases parts with
  | nil => exact iff_of_false nofun nofun
  | cons part rest =>
    have first := renderPart_eq_none_iff scene part
    have others := renderParts_eq_none_iff scene rest
    simp only [renderParts, List.mem_cons, exists_eq_or_imp, ← first, ← others]
    cases scene.renderPart part <;> simp

end

end Scene

theorem Connection.pageMarkup_eq_none_iff (connection : Connection) (shared : Shared) :
    connection.pageMarkup shared = none ↔
      ∃ part ∈ connection.page.view, (connection.scene shared .view).Panics part := by
  rw [← connection.pageMarkup_enter shared .view, pageMarkup, Scene.render, Option.map_eq_none_iff]
  exact Scene.renderParts_eq_none_iff _ _

namespace App

/-- The ids that come next are in use nowhere. -/
structure Fresh (app : App) : Prop where
  connection : app.place? (IdSource.connectionId app.ids.connections) = none
  session : app.NextUnused

/-- The page of a route, into this connection, for this cookie, is one whose view panics. -/
structure ViewPanics (app : App) (now : Instant) (route : String) (cookie : Option String)
    (connection : Connection) : Prop where
  routed : app.pages.get? route = some connection.page
  created : Connection.fresh? now (IdSource.connectionId app.ids.connections)
    (some (app.sessionFor now cookie).2.id) connection.page app.config.patchQueueCapacity =
      some connection
  panics : ∃ part ∈ connection.page.view,
    (connection.scene (app.sessionFor now cookie).1.shared .view).Panics part

theorem ViewPanics.opens {app : App} {now : Instant} {route : String} {cookie : Option String}
    {connection : Connection} (panics : app.ViewPanics now route cookie connection) :
    app.Opens now route cookie connection := ⟨panics.routed, panics.created⟩

/-- The panic is reported just where there is one. -/
theorem loadPage_panicked_iff (app : App) (now : Instant) (route named : String)
    (cookie : Option String) :
    (app.loadPage now route cookie).2 = .error (.viewPanicked named) ↔
      named = route ∧ ∃ connection, app.ViewPanics now route cookie connection := by
  have loads := app.loadPage_loads now route cookie
  generalize app.loadPage now route cookie = outcome at loads ⊢
  cases loads with
  | unknown unrouted =>
    refine iff_of_false nofun ?_
    rintro ⟨-, connection, panics⟩
    cases unrouted.symm.trans panics.routed
  | crashed page routed beyond =>
    refine iff_of_false nofun ?_
    rintro ⟨-, connection, panics⟩
    have fresh := panics.created
    rw [Connection.fresh?, beyond] at fresh
    cases fresh
  | panicked connection opens failed =>
    rw [register_shared] at failed
    have panics := (Connection.pageMarkup_eq_none_iff _ _).mp failed
    constructor
    · intro panicked
      cases panicked
      exact ⟨rfl, connection, opens.routed, opens.fresh, panics⟩
    · rintro ⟨rfl, -⟩
      rfl
  | rendered connection opens root markup =>
    refine iff_of_false nofun ?_
    rintro ⟨-, other, panics⟩
    obtain rfl : other = connection := panics.opens.unique opens
    rw [register_shared] at markup
    have failed := (Connection.pageMarkup_eq_none_iff _ _).mpr panics.panics
    cases failed.symm.trans markup

end App

/-- A session's entry once it has been resolved: it is there, and refreshed. -/
def Session.resolved (now : Instant) (entry : Option Session) : Session :=
  let found := entry.getD ⟨KeyMap.empty, now⟩
  { found with lastAccess := max found.lastAccess now }

namespace Sessions

theorem held?_resolve (sessions : Sessions) (now : Instant) (fresh : String)
    (cookie : Option String) (id key : String) :
    (sessions.resolve now fresh cookie).1.held? id key = sessions.held? id key := by
  unfold resolve
  split
  · rw [held?_refresh, held?_ensure]
  · rw [held?_ensure]

theorem refused_resolve (sessions : Sessions) (now : Instant) (fresh : String)
    (cookie : Option String) :
    (sessions.resolve now fresh cookie).1.refused = sessions.refused := by
  unfold resolve
  split <;> simp

/-- A session minted under an id in use would be found, and not refreshed. -/
theorem live_resolve {sessions : Sessions} {fresh : String}
    (unused : sessions.contains fresh = false) (now : Instant) (cookie : Option String)
    (id : String) :
    let resolved := sessions.resolve now fresh cookie
    resolved.1.live.get? id =
      if id = resolved.2.id then some (Session.resolved now (sessions.live.get? id))
      else sessions.live.get? id := by
  unfold resolve
  split
  · next named _ =>
    simp only [live_refresh, live_ensure]
    by_cases same : id = named <;> simp [same, Session.resolved]
  · have absent := (KeyMap.contains_eq_false_iff _ _).mp unused
    simp only [live_ensure]
    by_cases same : id = fresh <;> simp [same, Session.resolved, absent]

end Sessions

namespace App

/-- After a failed render there is a connection more, closed and with nothing to deliver, and the
session of the page is resolved. All else is as before. -/
structure OnlyResolved (before after : App) (now : Instant) (session : String)
    (discarded : Connection) : Prop where
  connections : after.connections = before.connections ++ [discarded]
  closed : discarded.isClosed = true
  drained : discarded.queue.pending = []
  registered : after.registered = before.registered
  application : after.shared.application = before.shared.application
  refusals : after.shared.sessions.refused = before.shared.sessions.refused
  values : ∀ id key, after.shared.sessions.get? id key = before.shared.sessions.get? id key
  resolved : after.shared.sessions.live.get? session =
    some (Session.resolved now (before.shared.sessions.live.get? session))
  others : ∀ id ≠ session,
    after.shared.sessions.live.get? id = before.shared.sessions.live.get? id
  pages : after.pages = before.pages
  config : after.config = before.config

/-- Registering under a new id and closing again leaves the connection behind and nothing else. -/
theorem close_register {app : App} {connection : Connection}
    (unused : app.place? connection.id = none) :
    ((app.register connection).close connection.id).1 =
      { app with connections := app.connections ++ [connection.retire] } := by
  have opened : app.register connection = { app with
      connections := app.connections ++ [connection]
      registered := app.registered.insert connection.id app.connections.length } := by
    simp only [register, unused]
  have erased : (app.registered.insert connection.id app.connections.length).erase connection.id =
      app.registered := by
    apply KeyMap.ext_get?
    intro other
    by_cases same : other = connection.id
    · rw [KeyMap.get?_erase, if_pos same, same]
      exact unused.symm
    · simp [same]
  have retired : (app.connections ++ [connection]).modify app.connections.length Connection.retire =
      app.connections ++ [connection.retire] := by
    rw [List.modify_eq_take_cons_drop (by simp)]
    simp
  rw [opened]
  simp [close, place?, modify, erased, retired]

theorem loadPage_failed {app : App} {now : Instant} {route : String} {cookie : Option String}
    {connection : Connection}
    (unused : app.place? (IdSource.connectionId app.ids.connections) = none)
    (panics : app.ViewPanics now route cookie connection) :
    app.loadPage now route cookie =
      ({ app.numbered now cookie with connections := app.connections ++ [connection.retire] },
        .error (.viewPanicked route)) := by
  obtain ⟨routed, created, inside⟩ := panics
  have named : connection.id = IdSource.connectionId app.ids.connections := by
    rw [Connection.fresh?_eq created]
  have failed : connection.pageMarkup ((app.numbered now cookie).register connection).shared =
      none := by
    rw [register_shared]
    exact (Connection.pageMarkup_eq_none_iff connection _).mpr inside
  have absent : (app.numbered now cookie).place? connection.id = none := named ▸ unused
  have closed := close_register absent
  rw [← named] at created
  rw [loadPage_found routed, ← named]
  simp only [created, failed, closed]
  rfl

theorem onlyResolved_of_failed {app : App} {now : Instant} {route : String}
    {cookie : Option String} {connection : Connection} (fresh : app.Fresh)
    (panics : app.ViewPanics now route cookie connection) :
    app.OnlyResolved (app.loadPage now route cookie).1 now (app.sessionFor now cookie).2.id
      connection.retire := by
  rw [loadPage_failed fresh.connection panics]
  have entries := Sessions.live_resolve fresh.session now cookie
  have refusals := app.shared.sessions.refused_resolve now
    (IdSource.sessionId app.ids.sessions) cookie
  have values := app.shared.sessions.held?_resolve now (IdSource.sessionId app.ids.sessions) cookie
  refine ⟨rfl, rfl, ?_, rfl, rfl, refusals, fun id key => ?_, ?_, fun id apart => ?_, rfl, rfl⟩
  · rw [Connection.fresh?_eq panics.created]
    rfl
  · have same := values id key
    unfold Sessions.held? at same
    unfold Sessions.get? Sessions.isRefused
    simp only [numbered, sessionFor, withSessions, refusals, same]
  · exact (entries _).trans (if_pos rfl)
  · exact (entries id).trans (if_neg apart)

end App

namespace Scenario

/-- Where the splice lies behind all connections, whatever is held stays where it is. -/
theorem spliced_last {scenario : Scenario} (exact : scenario.app.Exact)
    (standing : scenario.Standing) (extra : Connection) :
    scenario.spliced scenario.app.connections.length extra =
      scenario.withApp
        { scenario.app with connections := scenario.app.connections ++ [extra] } := by
  have still {place : Nat} (within : place < scenario.app.connections.length) :
      shift scenario.app.connections.length place = place := if_pos within
  have registered : scenario.app.registered.map (shift scenario.app.connections.length) =
      scenario.app.registered := by
    apply KeyMap.ext_get?
    intro id
    rw [KeyMap.get?_map]
    cases placed : scenario.app.registered.get? id with
    | none => rfl
    | some place =>
      obtain ⟨connection, here, -⟩ := exact.standing id place placed
      rw [Option.map_some, still (List.getElem?_eq_some_iff.mp here).1]
  have held : scenario.held.map (shift scenario.app.connections.length) = scenario.held := by
    refine (List.map_congr_left fun place member => ?_).trans (List.map_id _)
    exact still (standing place (List.mem_append_left _ member))
  have listeners : scenario.listeners.map (Listener.moved scenario.app.connections.length) =
      scenario.listeners := by
    refine (List.map_congr_left fun listener member => ?_).trans (List.map_id _)
    have there := still (standing _ (List.mem_append_right _ (List.mem_map_of_mem member)))
    simp [Listener.moved, PushChannel.moved, there]
  simp [spliced, App.spliced, withApp, registered, held, listeners, List.insertIdx_length_self]

/-- The scenario after a failed render is that after resolving the cookie, with the discarded
connection put in behind all others. The id of that connection has been generated as well. -/
theorem step_failed {scenario : Scenario} (exact : scenario.app.Exact)
    (standing : scenario.Standing) {now : Instant} {route : String} {cookie : Option String}
    {connection : Connection}
    (unused : scenario.app.place? (IdSource.connectionId scenario.app.ids.connections) = none)
    (panics : scenario.app.ViewPanics now route cookie connection) :
    let plain := (scenario.step now (.resolve cookie)).scenario
    let passed := { plain.app.ids with connections := plain.app.ids.connections + 1 }
    (scenario.step now (.render route cookie)).scenario =
      (plain.drawing passed).spliced scenario.app.connections.length connection.retire := by
  intro plain passed
  have loaded := App.loadPage_failed unused panics
  have rendered : (scenario.step now (.render route cookie)).scenario =
      scenario.withApp { scenario.app.numbered now cookie with
        connections := scenario.app.connections ++ [connection.retire] } := by
    simp only [Scenario.step, loaded]
    rfl
  have numbered : plain.drawing passed = scenario.withApp (scenario.app.numbered now cookie) := by
    have count : (scenario.app.sessionFor now cookie).1.ids.connections =
        scenario.app.ids.connections := by
      unfold App.sessionFor
      dsimp only
      split <;> rfl
    simp only [plain, passed, Scenario.step, drawing, App.numbered, ← count]
    rfl
  have resolved : (scenario.withApp (scenario.app.numbered now cookie)).app.Exact :=
    ⟨exact.open_iff, exact.standing⟩
  rw [numbered, rendered]
  exact (spliced_last resolved standing connection.retire).symm

end Scenario

/-- In every state that can be reached, a render of an unknown route changes nothing. Where the
view panics, however deep, the panic is reported; there is a closed connection more and the session
is resolved, and all else is as before. Every later step has the answer that it would have if the
cookie had just been resolved, under the same generated ids: one id has been passed over, and later
push channels belong to connections that lie one place further back. -/
theorem failed_render_only_resolves {config : Config} {pages : List Page} {app : App}
    (built : App.build config pages = .ok app) (past : List (Instant × Step)) (now : Instant)
    (route : String) (cookie : Option String) :
    let scenario := (Scenario.ofApp app).reached past
    (scenario.app.pages.get? route = none →
      scenario.app.loadPage now route cookie = (scenario.app, .error (.unknownRoute route))) ∧
    (∀ named, (scenario.app.loadPage now route cookie).2 = .error (.viewPanicked named) ↔
      named = route ∧ ∃ connection, scenario.app.ViewPanics now route cookie connection) ∧
    ∀ connection, scenario.app.Fresh → scenario.app.ViewPanics now route cookie connection →
      let session := (scenario.app.sessionFor now cookie).2.id
      let failed := (scenario.step now (.render route cookie)).scenario
      let plain := (scenario.step now (.resolve cookie)).scenario
      let passed := { plain.app.ids with connections := plain.app.ids.connections + 1 }
      scenario.app.loadPage now route cookie = (failed.app, .error (.viewPanicked route)) ∧
      scenario.app.OnlyResolved failed.app now session connection.retire ∧
      ∀ later, failed.drawn later = ((plain.drawing passed).drawn later).map fun told =>
        (told.1.moved scenario.app.connections.length, told.2) := by
  intro scenario
  have exact : scenario.app.Exact := Scenario.reached_exact (App.exact_of_built built) past
  have standing : scenario.Standing :=
    Scenario.reached_standing (App.exact_of_built built) (Scenario.standing_ofApp app) past
  refine ⟨fun unknown => by simp only [App.loadPage, unknown],
    fun named => App.loadPage_panicked_iff scenario.app now route named cookie, ?_⟩
  intro connection fresh panics session failed plain passed
  have loaded := App.loadPage_failed fresh.connection panics
  have rendered : failed.app = (scenario.app.loadPage now route cookie).1 := by
    simp only [failed, Scenario.step, loaded]
    rfl
  have together : failed = (plain.drawing passed).spliced _ connection.retire :=
    Scenario.step_failed exact standing fresh.connection panics
  have within : scenario.app.connections.length ≤ (plain.drawing passed).app.connections.length :=
    Nat.le_refl _
  refine ⟨?_, ?_, fun later => ?_⟩
  · rw [rendered, loaded]
  · rw [rendered]
    exact App.onlyResolved_of_failed fresh panics
  · rw [together]
    exact Scenario.drawn_spliced within connection.retire later

-- A badge within a card panics over the weather that an earlier visitor has left behind.
def weatherHandle : State .string := ⟨"weather", .session, "fair"⟩

def weatherPage : Page := .of {
  id := "weather"
  route := some "/"
  view := [.connectionId, .component "card" [.sessionId,
    .component "badge" [.panicIf ⟨.string, weatherHandle⟩ "\"storm\""]]]
  states := [⟨"weather", .str "fair", .session, none⟩]
  signals := []
  actions := KeyMap.empty
  owners := KeyMap.empty
  components := ["card", "badge"] }

def weatherApp : App :=
  ⟨KeyMap.ofList [("/", weatherPage)], Config.defaults, Shared.empty, [], KeyMap.empty, ⟨0, 0⟩⟩

def stormVisit : List (Instant × Step) :=
  [(1, .resolve none), (3, .create "tab" (some "@sess0@") weatherPage),
    (5, .setSession "@sess0@" "weather" (.str "storm"))]

def stormTab : Connection :=
  ⟨"@conn0@", some "@sess0@", weatherPage, Tab.fresh weatherPage.toCatalog, ⟨64, []⟩, 7, .opened 0⟩

theorem failed_render_only_resolves_storm :
    App.build Config.defaults [weatherPage] = .ok weatherApp ∧
    let scenario := (Scenario.ofApp weatherApp).reached stormVisit
    let failed := (scenario.step 7 (.render "/" (some "@sess0@"))).scenario
    let plain := (scenario.step 7 (.resolve (some "@sess0@"))).scenario
    scenario.app.pages.get? "/weather" = none ∧ scenario.app.Fresh ∧
    scenario.app.ViewPanics 7 "/" (some "@sess0@") stormTab ∧
    scenario.app.loadPage 7 "/weather" none = (scenario.app, .error (.unknownRoute "/weather")) ∧
    scenario.app.loadPage 7 "/" (some "@sess0@") = (failed.app, .error (.viewPanicked "/")) ∧
    scenario.app.OnlyResolved failed.app 7 "@sess0@" stormTab.retire ∧
    ∀ later, failed.drawn later = ((plain.drawing ⟨1, 1⟩).drawn later).map fun told =>
      (told.1.moved 1, told.2) := by
  have built : App.build Config.defaults [weatherPage] = .ok weatherApp := rfl
  let scenario := (Scenario.ofApp weatherApp).reached stormVisit
  have unknown : scenario.app.pages.get? "/weather" = none := rfl
  have ids : scenario.app.ids = ⟨0, 1⟩ := rfl
  have fresh : scenario.app.Fresh := by
    constructor
    · rw [ids]
      rfl
    · rw [App.NextUnused, ids]
      rfl
  have returned : (scenario.app.sessionFor 7 (some "@sess0@")).2 = ⟨"@sess0@", false⟩ := by
    decide +kernel
  let scene := stormTab.scene (scenario.app.sessionFor 7 (some "@sess0@")).1.shared .view
  have shown : (scene.presentState ⟨.string, weatherHandle⟩).text = "\"storm\"" := by
    decide +kernel
  have panics : scene.Panics (.panicIf ⟨.string, weatherHandle⟩ "\"storm\"") :=
    shown ▸ .panicIf ⟨.string, weatherHandle⟩
  have storm : scenario.app.ViewPanics 7 "/" (some "@sess0@") stormTab :=
    ⟨rfl, by rw [returned, ids]; rfl, _, .tail _ (.head _),
      .component "card" (.tail _ (.head _)) (.component "badge" (.head _) panics)⟩
  obtain ⟨missed, -⟩ := failed_render_only_resolves built stormVisit 7 "/weather" none
  obtain ⟨-, -, panicked⟩ := failed_render_only_resolves built stormVisit 7 "/" (some "@sess0@")
  obtain ⟨reported, resolved, same⟩ := panicked stormTab fresh storm
  have next : (scenario.step 7 (.resolve (some "@sess0@"))).scenario.app.ids = ⟨0, 1⟩ := by
    decide +kernel
  rw [returned] at resolved
  rw [next] at same
  exact ⟨built, unknown, fresh, storm, missed unknown, reported, resolved, same⟩

end LiveTabs
