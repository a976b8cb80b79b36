import LiveTabs.App
import LiveTabs.Proofs.Connection
import LiveTabs.Proofs.Reading
/-!
Opening a tab: where a new connection is put, and what comes of rendering a page in it. The tab is
in view mode while its page is rendered, and idle again when a page has been loaded or its view has
panicked.
-/
namespace LiveTabs

theorem Connection.enter_idle {connection : Connection} (idle : connection.tab.mode = .idle)
    (mode : Mode) : (connection.enter mode).enter .idle = connection := by
  rw [← idle]
  rfl

/-- Whatever mode a tab is in, its page is rendered alike. -/
theorem Connection.pageMarkup_enter (connection : Connection) (shared : Shared) (mode : Mode) :
    (connection.enter mode).pageMarkup shared = connection.pageMarkup shared := by
  have alike : ((connection.enter mode).scene shared mode).Alike
      (connection.scene shared connection.tab.mode) := ⟨rfl, rfl, rfl, rfl⟩
  exact Scene.render_alike alike connection.page.root

namespace App

theorem setConnection_eq_modify {app : App} {place : Nat} {connection : Connection}
    (found : app.connections[place]? = some connection) (change : Connection → Connection) :
    app.setConnection place (change connection) = app.modify place change := by
  obtain ⟨inside, there⟩ := List.getElem?_eq_some_iff.mp found
  have same : app.connections.set place (change connection) =
      app.connections.modify place change := by
    apply List.ext_getElem?
    intro other
    rw [List.getElem?_set, List.getElem?_modify]
    by_cases here : place = other
    · subst here
      simp [inside, there]
    · simp [here]
  rw [setConnection, modify, same]

theorem setConnection_same {app : App} {place : Nat} {connection : Connection}
    (found : app.connections[place]? = some connection) :
    app.setConnection place connection = app := by
  obtain ⟨inside, there⟩ := List.getElem?_eq_some_iff.mp found
  rw [setConnection, ← there, List.set_getElem_self]

/-- A connection is registered behind all others. The one that had its id before is shut down. -/
theorem register_cases (app : App) (connection : Connection) :
    ∃ replaced : App,
      (replaced = app ∨ ∃ place, app.place? connection.id = some place ∧
        replaced = app.modify place Connection.retire) ∧
      app.register connection = { replaced with
        connections := replaced.connections ++ [connection]
        registered := app.registered.insert connection.id app.connections.length } := by
  cases placed : app.place? connection.id with
  | none => exact ⟨app, .inl rfl, by simp only [register, placed]⟩
  | some place =>
    refine ⟨app.modify place Connection.retire, .inr ⟨place, rfl, rfl⟩, ?_⟩
    simp only [register, placed]
    rfl

theorem register_last (app : App) (connection : Connection) :
    (app.register connection).connections[app.connections.length]? = some connection := by
  obtain ⟨replaced, rfl | ⟨place, -, rfl⟩, registered⟩ := app.register_cases connection <;>
    simp [registered, modify]

/-- Rendering leaves the tab that it began with, in the mode that it began with. -/
theorem renderAt_idle {app : App} {place : Nat} {connection : Connection}
    (there : app.connections[place]? = some connection) (idle : connection.tab.mode = .idle) :
    app.renderAt place = (app, connection.pageMarkup app.shared) := by
  have viewing : app.viewing place = app.setConnection place (connection.enter .view) :=
    (setConnection_eq_modify there _).symm
  have shown : (app.setConnection place (connection.enter .view)).connections[place]? =
      some (connection.enter .view) := by
    simp [setConnection, (List.getElem?_eq_some_iff.mp there).1]
  have again : (app.setConnection place (connection.enter .view)).setConnection place connection =
      app := by
    rw [← setConnection_same there]
    simp [setConnection]
  simp only [renderAt, viewing, shown, Option.bind_some, Connection.pageMarkup_enter]
  rw [← setConnection_eq_modify shown, Connection.enter_idle idle, again]
  rfl

/-- The application into which a page is rendered: the session is resolved, and the id of the
connection is taken. -/
def numbered (app : App) (now : Instant) (cookie : Option String) : App :=
  let resolved := (app.sessionFor now cookie).1
  { resolved with ids := { resolved.ids with connections := app.ids.connections + 1 } }

theorem loadPage_found {app : App} {route : String} {page : Page}
    (found : app.pages.get? route = some page) (now : Instant) (cookie : Option String) :
    app.loadPage now route cookie =
      let session := (app.sessionFor now cookie).2
      let id := IdSource.connectionId app.ids.connections
      match Connection.fresh? now id (some session.id) page app.config.patchQueueCapacity with
      | none => (app.numbered now cookie, .error .crashed)
      | some connection =>
        let opened := (app.numbered now cookie).register connection
        match connection.pageMarkup opened.shared with
        | none => ((opened.close id).1, .error (.viewPanicked route))
        | some root =>
          (opened, .ok ⟨id, session.id, session.minted,
            Markup.document id app.config.clientScript root⟩) := by
  simp only [loadPage, found]
  cases fresh : Connection.fresh? now (IdSource.connectionId app.ids.connections)
      (some (app.sessionFor now cookie).2.id) page app.config.patchQueueCapacity with
  | none => rfl
  | some connection =>
    have idle : connection.tab.mode = .idle := by
      rw [(Connection.fresh?_starts fresh).1]
      rfl
    have rendered := renderAt_idle ((app.numbered now cookie).register_last connection) idle
    simp only [numbered] at rendered ⊢
    rw [rendered]
    generalize connection.pageMarkup _ = markup
    cases markup <;> rfl

/-- The connection is the one that is created for the page of a route. -/
structure Opens (app : App) (now : Instant) (route : String) (cookie : Option String)
    (connection : Connection) : Prop where
  routed : app.pages.get? route = some connection.page
  fresh : Connection.fresh? now (IdSource.connectionId app.ids.connections)
    (some (app.sessionFor now cookie).2.id) connection.page app.config.patchQueueCapacity =
      some connection

namespace Opens
variable {app : App} {now : Instant} {route : String} {cookie : Option String}
  {connection : Connection} (opens : app.Opens now route cookie connection)
include opens

theorem id : connection.id = IdSource.connectionId app.ids.connections := by
  rw [Connection.fresh?_eq opens.fresh]

theorem session : connection.session = some (app.sessionFor now cookie).2.id := by
  rw [Connection.fresh?_eq opens.fresh]

theorem unique {other : Connection} (also : app.Opens now route cookie other) :
    connection = other := by
  have fresh := opens.fresh
  rw [Option.some.inj (opens.routed.symm.trans also.routed)] at fresh
  exact Option.some.inj (fresh.symm.trans also.fresh)

end Opens

/-- All that can come of loading a page. -/
inductive Loads (app : App) (now : Instant) (route : String) (cookie : Option String) :
    App × Except LoadError LoadedPage → Prop where
  | unknown (unrouted : app.pages.get? route = none) :
    Loads app now route cookie (app, .error (.unknownRoute route))
  | crashed (page : Page) (routed : app.pages.get? route = some page)
    (beyond : Outbox.ofCapacity? app.config.patchQueueCapacity = none) :
    Loads app now route cookie (app.numbered now cookie, .error .crashed)
  | panicked (connection : Connection) (opens : app.Opens now route cookie connection)
    (failed : connection.pageMarkup ((app.numbered now cookie).register connection).shared =
      none) :
    Loads app now route cookie
      ((((app.numbered now cookie).register connection).close connection.id).1,
        .error (.viewPanicked route))
  | rendered (connection : Connection) (opens : app.Opens now route cookie connection)
    (root : String)
    (markup : connection.pageMarkup ((app.numbered now cookie).register connection).shared =
      some root) :
    Loads app now route cookie ((app.numbered now cookie).register connection,
      .ok ⟨connection.id, (app.sessionFor now cookie).2.id, (app.sessionFor now cookie).2.minted,
        Markup.document connection.id app.config.clientScript root⟩)

theorem loadPage_loads (app : App) (now : Instant) (route : String) (cookie : Option String) :
    app.Loads now route cookie (app.loadPage now route cookie) := by
  cases routed : app.pages.get? route with
  | none =>
    simp only [loadPage, routed]
    exact .unknown routed
  | some page =>
    rw [loadPage_found routed]
    dsimp only
    split
    · next beyond => exact .crashed page routed (Option.map_eq_none_iff.mp beyond)
    · next connection fresh =>
      obtain rfl : page = connection.page := by rw [Connection.fresh?_eq fresh]
      have opens : app.Opens now route cookie connection := ⟨routed, fresh⟩
      rw [← opens.id]
      split
      · next failed => exact .panicked connection opens failed
      · next root markup => exact .rendered connection opens root markup

end App
end LiveTabs
