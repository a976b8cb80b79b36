import LiveTabs.Catalog.Builder
import LiveTabs.ClientRequest
import LiveTabs.Config
import LiveTabs.Connection
/-!
An application: its pages by route, the connections open at present, and the shared values. Every
connection ever created keeps its place in a list, so that one that was closed or replaced can
still be told from the one registered under its id.
-/
namespace LiveTabs

/-- Generated ids, numbered in the order in which they are needed. -/
structure IdSource where
  connections : Nat
  sessions : Nat
  deriving DecidableEq

namespace IdSource

def connectionId (n : Nat) : String := "@conn" ++ toString n ++ "@"

def sessionId (n : Nat) : String := "@sess" ++ toString n ++ "@"

end IdSource

structure App where
  pages : KeyMap Page
  config : Config
  shared : Shared
  connections : List Connection
  registered : KeyMap Nat
  ids : IdSource

structure LoadedPage where
  connection : String
  session : String
  newSession : Bool
  html : String

/-- Why no page is rendered. It is crashed where not even a connection could be created. -/
inductive LoadError where
  | unknownRoute (route : String)
  | viewPanicked (route : String)
  | crashed
  deriving DecidableEq

/-- A crash is no error of the application and says nothing. -/
def LoadError.message? : LoadError → Option String
  | .unknownRoute route => some ("no page registered on route '" ++ route ++ "'")
  | .viewPanicked route => some ("view for route '" ++ route ++ "' panicked during render")
  | .crashed => none

structure SweepCount where
  connections : Nat
  sessions : Nat
  refusals : Nat
  deriving DecidableEq

/-- A push channel of one connection, by the place of the connection and the generation. -/
structure PushChannel where
  place : Nat
  generation : Nat
  deriving DecidableEq

namespace App

/-- Routes of the transport itself are no page routes, and neither is anything below the actions. -/
def isPageRoute (route : String) : Bool :=
  "/".toList.isPrefixOf route.toList && !"/_action/".toList.isPrefixOf route.toList &&
    route != "/_sse" && route != "/_session/close"

def addPage (pages : KeyMap Page) (page : Page) : Except BuildError (KeyMap Page) :=
  match page.route with
  | none => .error (.missingRoute page.id)
  | some route =>
    if !isPageRoute route then .error (.invalidRoute route)
    else if pages.contains route then .error (.duplicateRoute route)
    else .ok (pages.insert route page)

/-- The first page that cannot be added is reported. -/
def build (config : Config) (pages : List Page) : Except BuildError App :=
  (pages.foldlM addPage KeyMap.empty).map fun added =>
    ⟨added, config, Shared.empty, [], KeyMap.empty, ⟨0, 0⟩⟩

def place? (app : App) (id : String) : Option Nat := app.registered.get? id

/-- The connection registered under an id. -/
def lookup (app : App) (id : String) : Option Connection :=
  (app.place? id).bind fun place => app.connections[place]?

def setConnection (app : App) (place : Nat) (connection : Connection) : App :=
  { app with connections := app.connections.set place connection }

def modify (app : App) (place : Nat) (change : Connection → Connection) : App :=
  { app with connections := app.connections.modify place change }

def withSessions (app : App) (sessions : Sessions) : App :=
  { app with shared := { app.shared with sessions } }

def setApplication (app : App) (key : String) (value : Json) : App :=
  { app with
    shared := { app.shared with application := app.shared.application.insert key value } }

/-- Registers a new connection; one that had the same id is shut down. -/
def register (app : App) (connection : Connection) : App :=
  let replaced :=
    match app.place? connection.id with
    | none => app
    | some place => app.modify place Connection.retire
  { replaced with
    connections := replaced.connections ++ [connection]
    registered := replaced.registered.insert connection.id app.connections.length }

def connect (app : App) (now : Instant) (id : String) (session : Option String)
    (page : Page) : Option App :=
  (Connection.fresh? now id session page app.config.patchQueueCapacity).map app.register

/-- Refreshes a connection, and its session if that exists. -/
def refresh (app : App) (now : Instant) (id : String) : App × Bool :=
  match app.place? id, app.lookup id with
  | some place, some connection =>
    let refreshed := app.setConnection place (connection.refresh now)
    match connection.session with
    | none => (refreshed, true)
    | some session => (refreshed.withSessions (refreshed.shared.sessions.refresh now session), true)
  | _, _ => (app, false)

def close (app : App) (id : String) : App × Bool :=
  match app.place? id with
  | none => (app, false)
  | some place =>
    ({ app.modify place Connection.retire with registered := app.registered.erase id }, true)

def refuseSession (app : App) (now : Instant) (session : String) : App :=
  app.withSessions (app.shared.sessions.refuse now session)

/-- The session for a cookie; a new one takes the next generated id. -/
def sessionFor (app : App) (now : Instant) (cookie : Option String) :
    App × CookieSession :=
  let resolved := app.shared.sessions.resolve now (IdSource.sessionId app.ids.sessions) cookie
  ({ app.withSessions resolved.1 with
    ids := if resolved.2.minted then { app.ids with sessions := app.ids.sessions + 1 }
      else app.ids }, resolved.2)

/-- The application while the page of the connection at a place is rendered. -/
def viewing (app : App) (place : Nat) : App := app.modify place (·.enter .view)

/-- Renders the page of the connection at a place, with its tab in view mode meanwhile. Whatever
comes of the view, the tab is idle again after it. -/
def renderAt (app : App) (place : Nat) : App × Option String :=
  let viewing := app.viewing place
  let markup := viewing.connections[place]?.bind (·.pageMarkup viewing.shared)
  (viewing.modify place (·.enter .idle), markup)

/-- Renders a page into a new connection. Nothing happens on an unknown route. Where the view
panics, the connection is closed again; the session stays resolved. -/
def loadPage (app : App) (now : Instant) (route : String) (cookie : Option String) :
    App × Except LoadError LoadedPage :=
  match app.pages.get? route with
  | none => (app, .error (.unknownRoute route))
  | some page =>
    let resolved := app.sessionFor now cookie
    let id := IdSource.connectionId app.ids.connections
    let numbered := { resolved.1 with
      ids := { resolved.1.ids with connections := app.ids.connections + 1 } }
    let session := resolved.2
    match Connection.fresh? now id (some session.id) page app.config.patchQueueCapacity with
    | none => (numbered, .error .crashed)
    | some connection =>
      match (numbered.register connection).renderAt numbered.connections.length with
      | (rendered, none) => ((rendered.close id).1, .error (.viewPanicked route))
      | (rendered, some root) =>
        (rendered, .ok ⟨id, session.id, session.minted,
          Markup.document id app.config.clientScript root⟩)

/-- Runs an action on a connection. Finding the connection refreshes it, whatever comes of the
action. -/
def runAction (app : App) (now : Instant) (id action : String) (signals : KeyMap Json) :
    App × List Note × ActionOutcome :=
  match app.place? id, (app.refresh now id).1.lookup id with
  | some place, some connection =>
    let refreshed := (app.refresh now id).1
    let (after, shared, notes, outcome) := connection.runAction refreshed.shared now action signals
    ({ refreshed.setConnection place after with shared }, notes, outcome)
  | _, _ => (app, [], .connectionNotFound)

def runRequest (app : App) (now : Instant) (action payload : String) :
    App × List Note × Except RequestError ActionOutcome :=
  match ClientRequest.parse payload with
  | .error error => (app, [], .error error)
  | .ok request =>
    let (after, notes, outcome) :=
      app.runAction now request.connection action request.signals
    (after, notes, .ok outcome)

/-- Opens a push channel on the connection at a place, registered or not. -/
def subscribeAt (app : App) (place : Nat) : App × Option PushChannel :=
  match app.connections[place]? with
  | none => (app, none)
  | some connection =>
    let (opened, generation) := connection.subscribe
    (app.setConnection place opened, some ⟨place, generation⟩)

/-- Opens a push channel on a registered connection and refreshes it. -/
def subscribe (app : App) (now : Instant) (id : String) : App × Option PushChannel :=
  match app.place? id with
  | none => (app, none)
  | some place => (app.refresh now id).1.subscribeAt place

def poll (app : App) (channel : PushChannel) : App × Polled :=
  match app.connections[channel.place]? with
  | none => (app, .ended)
  | some connection =>
    let (polled, found) := connection.poll channel.generation
    (app.setConnection channel.place polled, found)

def isExpired (app : App) (now : Instant) (ttl : Duration) (place : Nat) : Bool :=
  match app.connections[place]? with
  | none => false
  | some connection => expired now connection.lastAccess ttl

def sessionWindow (app : App) : Duration := seconds app.config.sessionMaxAge

/-- Closes the connections that were not refreshed for longer than `ttl`, and drops the sessions
and refusals that are older than the session window. -/
def sweep (app : App) (now : Instant) (ttl : Duration) : App × SweepCount :=
  let gone := app.registered.filter fun _ place => app.isExpired now ttl place
  let closed := gone.entries.foldl (fun app entry => app.modify entry.2 Connection.retire) app
  let sessions := app.shared.sessions.sweep now app.sessionWindow
  ({ closed.withSessions sessions with
      registered := app.registered.filter fun _ place => !app.isExpired now ttl place },
    ⟨gone.size, app.shared.sessions.live.size - sessions.live.size,
      app.shared.sessions.refused.size - sessions.refused.size⟩)

end App
end LiveTabs
