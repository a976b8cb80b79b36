import LiveTabs.Proofs.Continuity
import LiveTabs.Proofs.Registry
import Mathlib.Tactic.SplitIfs
/-!
A connection that nothing leads to. Put among the others, it takes up a place and moves those behind
it; whatever is done to the application is done in the same way with it and without it, and answered
alike.
-/
namespace LiveTabs

/-- Where a place comes to lie when another is put in at `n`. -/
def shift (n place : Nat) : Nat := if place < n then place else place + 1

theorem getElem?_insertIdx_shift {α : Type} (items : List α) (n place : Nat) (extra : α) :
    (items.insertIdx n extra)[shift n place]? = items[place]? := by
  rw [List.getElem?_insertIdx, shift]
  split_ifs with before <;> first | rfl | omega

theorem insertIdx_modify {α : Type} (items : List α) (n place : Nat) (extra : α) (change : α → α) :
    (items.modify place change).insertIdx n extra =
      (items.insertIdx n extra).modify (shift n place) change := by
  apply List.ext_getElem?
  intro other
  simp only [List.getElem?_insertIdx, List.getElem?_modify, List.length_modify, shift]
  grind

theorem insertIdx_set {α : Type} (items : List α) (n place : Nat) (extra item : α) :
    (items.set place item).insertIdx n extra =
      (items.insertIdx n extra).set (shift n place) item := by
  apply List.ext_getElem?
  intro other
  simp only [List.getElem?_insertIdx, List.getElem?_set, List.length_set, List.length_insertIdx,
    shift]
  grind

theorem insertIdx_append_singleton {α : Type} (items : List α) {n : Nat} (within : n ≤ items.length)
    (extra item : α) : (items ++ [item]).insertIdx n extra = items.insertIdx n extra ++ [item] := by
  apply List.ext_getElem?
  intro other
  simp only [List.getElem?_insertIdx, List.getElem?_append, List.length_insertIdx,
    List.length_append, List.length_singleton]
  grind

namespace KeyMap

theorem map_insert {α β : Type} (map : KeyMap α) (key : String) (value : α) (change : α → β) :
    (map.insert key value).map change = (map.map change).insert key (change value) := by
  apply ext_get?
  intro other
  by_cases same : other = key <;> simp [same]

theorem filter_map {α β : Type} (map : KeyMap α) (change : α → β) (keep : String → β → Bool) :
    (map.map change).filter keep =
      (map.filter fun key value => keep key (change value)).map change :=
  ext_entries (by simp [KeyMap.map, KeyMap.mapKeyed, KeyMap.filter, List.filter_map, Function.comp_def])

theorem map_erase {α β : Type} (map : KeyMap α) (key : String) (change : α → β) :
    (map.erase key).map change = (map.map change).erase key :=
  (filter_map map change fun other _ => other != key).symm

@[simp] theorem size_map {α β : Type} (map : KeyMap α) (change : α → β) :
    (map.map change).size = map.size := by
  simp [size, KeyMap.map, KeyMap.mapKeyed]

end KeyMap

def PushChannel.moved (n : Nat) (channel : PushChannel) : PushChannel :=
  { channel with place := shift n channel.place }

namespace App

/-- The application with one more connection, which is not registered. -/
def spliced (n : Nat) (extra : Connection) (app : App) : App :=
  { app with
    connections := app.connections.insertIdx n extra
    registered := app.registered.map (shift n) }

section
variable (n : Nat) (extra : Connection) (app : App)

@[simp] theorem getElem?_spliced (place : Nat) :
    (app.spliced n extra).connections[shift n place]? = app.connections[place]? :=
  getElem?_insertIdx_shift app.connections n place extra

@[simp] theorem place?_spliced (id : String) :
    (app.spliced n extra).place? id = (app.place? id).map (shift n) :=
  KeyMap.get?_map _ _ id

@[simp] theorem lookup_spliced (id : String) : (app.spliced n extra).lookup id = app.lookup id := by
  rw [lookup, lookup, place?_spliced]
  cases app.place? id <;> simp

@[simp] theorem shared_spliced : (app.spliced n extra).shared = app.shared := rfl

@[simp] theorem pages_spliced : (app.spliced n extra).pages = app.pages := rfl

@[simp] theorem config_spliced : (app.spliced n extra).config = app.config := rfl

@[simp] theorem ids_spliced : (app.spliced n extra).ids = app.ids := rfl

@[simp] theorem spliced_modify (place : Nat) (change : Connection → Connection) :
    (app.spliced n extra).modify (shift n place) change =
      (app.modify place change).spliced n extra := by
  simp [modify, spliced, insertIdx_modify]

@[simp] theorem spliced_setConnection (place : Nat) (connection : Connection) :
    (app.spliced n extra).setConnection (shift n place) connection =
      (app.setConnection place connection).spliced n extra := by
  simp [setConnection, spliced, insertIdx_set]

@[simp] theorem spliced_withSessions (sessions : Sessions) :
    (app.spliced n extra).withSessions sessions = (app.withSessions sessions).spliced n extra := rfl

theorem refresh_spliced (now : Instant) (id : String) :
    (app.spliced n extra).refresh now id =
      ((app.refresh now id).1.spliced n extra, (app.refresh now id).2) := by
  unfold refresh
  rw [place?_spliced, lookup_spliced]
  cases app.place? id with
  | none => rfl
  | some place =>
    cases app.lookup id with
    | none => rfl
    | some connection => cases own : connection.session <;> simp [own]

theorem close_spliced (id : String) :
    (app.spliced n extra).close id =
      ((app.close id).1.spliced n extra, (app.close id).2) := by
  unfold close
  rw [place?_spliced]
  cases app.place? id with
  | none => rfl
  | some place =>
    simp only [Option.map_some, spliced_modify]
    simp [spliced, KeyMap.map_erase, modify]

theorem sessionFor_spliced (now : Instant) (cookie : Option String) :
    (app.spliced n extra).sessionFor now cookie =
      ((app.sessionFor now cookie).1.spliced n extra, (app.sessionFor now cookie).2) := rfl

theorem numbered_spliced (now : Instant) (cookie : Option String) :
    (app.spliced n extra).numbered now cookie = (app.numbered now cookie).spliced n extra := rfl

theorem runAction_spliced (now : Instant) (id action : String) (signals : KeyMap Json) :
    (app.spliced n extra).runAction now id action signals =
      let ran := app.runAction now id action signals
      (ran.1.spliced n extra, ran.2) := by
  unfold runAction
  rw [place?_spliced, refresh_spliced, lookup_spliced]
  cases app.place? id with
  | none => rfl
  | some place =>
    cases (app.refresh now id).1.lookup id with
    | none => rfl
    | some connection =>
      simp only [Option.map_some, spliced_setConnection]
      rfl

theorem runRequest_spliced (now : Instant) (action payload : String) :
    (app.spliced n extra).runRequest now action payload =
      let ran := app.runRequest now action payload
      (ran.1.spliced n extra, ran.2) := by
  unfold runRequest
  cases ClientRequest.parse payload with
  | error refused => rfl
  | ok request => simp only [runAction_spliced]

theorem subscribeAt_spliced (place : Nat) :
    (app.spliced n extra).subscribeAt (shift n place) =
      ((app.subscribeAt place).1.spliced n extra,
        (app.subscribeAt place).2.map (PushChannel.moved n)) := by
  unfold subscribeAt
  rw [getElem?_spliced]
  cases app.connections[place]? with
  | none => rfl
  | some connection => simp [PushChannel.moved]

theorem subscribe_spliced (now : Instant) (id : String) :
    (app.spliced n extra).subscribe now id =
      ((app.subscribe now id).1.spliced n extra,
        (app.subscribe now id).2.map (PushChannel.moved n)) := by
  unfold subscribe
  rw [place?_spliced]
  cases app.place? id with
  | none => rfl
  | some place => simp only [Option.map_some, refresh_spliced, subscribeAt_spliced]

theorem poll_spliced (channel : PushChannel) :
    (app.spliced n extra).poll (channel.moved n) =
      ((app.poll channel).1.spliced n extra, (app.poll channel).2) := by
  unfold poll
  rw [PushChannel.moved, getElem?_spliced]
  cases app.connections[channel.place]? with
  | none => rfl
  | some connection => simp

theorem take_spliced (channel : PushChannel) (limit : Nat) :
    (app.spliced n extra).take (channel.moved n) limit =
      ((app.take channel limit).1.spliced n extra, (app.take channel limit).2) := by
  induction limit generalizing app with
  | zero => rfl
  | succ limit ih =>
    rw [take, take, poll_spliced]
    cases polled : app.poll channel with
    | mk after found =>
      cases found with
      | pending => rfl
      | ended => rfl
      | item patch => simp only [ih]

theorem readyLimit_spliced (channel : PushChannel) :
    (app.spliced n extra).readyLimit (channel.moved n) = app.readyLimit channel := by
  rw [readyLimit, PushChannel.moved, getElem?_spliced, readyLimit]

@[simp] theorem isExpired_spliced (now : Instant) (ttl : Duration) (place : Nat) :
    (app.spliced n extra).isExpired now ttl (shift n place) = app.isExpired now ttl place := by
  rw [isExpired, getElem?_spliced, isExpired]

theorem retired_spliced (gone : List (String × Nat)) :
    (gone.map fun entry => (entry.1, shift n entry.2)).foldl
        (fun app entry => app.modify entry.2 Connection.retire) (app.spliced n extra) =
      (gone.foldl (fun app entry => app.modify entry.2 Connection.retire) app).spliced n extra := by
  induction gone generalizing app with
  | nil => rfl
  | cons entry rest ih => rw [List.map_cons, List.foldl_cons, spliced_modify, ih, List.foldl_cons]

/-- What a sweep finds expired, or finds not expired, is registered as without the splice. -/
theorem filter_isExpired_spliced (now : Instant) (ttl : Duration) (keep : Bool → Bool) :
    (app.spliced n extra).registered.filter
        (fun _ place => keep ((app.spliced n extra).isExpired now ttl place)) =
      (app.registered.filter fun _ place => keep (app.isExpired now ttl place)).map (shift n) := by
  have moved : (app.spliced n extra).registered = app.registered.map (shift n) := rfl
  rw [moved, KeyMap.filter_map]
  simp only [isExpired_spliced]

theorem sweep_spliced (now : Instant) (ttl : Duration) :
    (app.spliced n extra).sweep now ttl =
      ((app.sweep now ttl).1.spliced n extra, (app.sweep now ttl).2) := by
  have gone := filter_isExpired_spliced n extra app now ttl id
  have kept := filter_isExpired_spliced n extra app now ttl (!·)
  have closed := retired_spliced n extra app
    (app.registered.filter fun _ place => app.isExpired now ttl place).entries
  simp only [id] at gone
  simp only [sweep, gone, kept, KeyMap.size_map]
  rw [show ∀ map : KeyMap Nat, (map.map (shift n)).entries =
    map.entries.map fun entry => (entry.1, shift n entry.2) from fun _ => rfl, closed]
  rfl

theorem runSweeper_spliced (now : Instant) (ttl : Option Duration) :
    (app.spliced n extra).runSweeper now ttl = (app.runSweeper now ttl).spliced n extra := by
  have empty : (app.spliced n extra).registered.isEmpty = app.registered.isEmpty := by
    simp [spliced, KeyMap.isEmpty, KeyMap.map, KeyMap.mapKeyed]
  unfold runSweeper
  rw [empty]
  split
  · rw [sweep_spliced]
  · rfl

theorem stats_spliced : (app.spliced n extra).stats = app.stats := by
  simp [stats, spliced]

end

/-! A new connection lies behind all others, where the splice is not beyond them. -/

section
variable {n : Nat} {app : App} (within : n ≤ app.connections.length) (extra : Connection)
include within

theorem register_spliced (connection : Connection) :
    (app.spliced n extra).register connection = (app.register connection).spliced n extra := by
  have last : (app.spliced n extra).connections.length = shift n app.connections.length := by
    rw [shift, if_neg (Nat.not_lt.mpr within)]
    exact List.length_insertIdx_of_le_length within extra
  unfold register
  rw [place?_spliced, last]
  cases placed : app.place? connection.id with
  | none =>
    simp [spliced, insertIdx_append_singleton _ within, KeyMap.map_insert]
  | some place =>
    have within : n ≤ (app.modify place Connection.retire).connections.length := by
      simpa [modify] using within
    simp only [Option.map_some, spliced_modify]
    simp [spliced, insertIdx_append_singleton _ within, KeyMap.map_insert]

theorem connect_spliced (now : Instant) (id : String) (session : Option String) (page : Page) :
    (app.spliced n extra).connect now id session page =
      (app.connect now id session page).map (spliced n extra) := by
  simp only [connect, config_spliced, Option.map_map]
  have moved := funext fun connection => register_spliced within extra connection
  exact congrArg (Option.map · _) moved

theorem loadPage_spliced (now : Instant) (route : String) (cookie : Option String) :
    (app.spliced n extra).loadPage now route cookie =
      ((app.loadPage now route cookie).1.spliced n extra, (app.loadPage now route cookie).2) := by
  cases found : app.pages.get? route with
  | none => simp [loadPage, found]
  | some page =>
    have within : n ≤ (app.numbered now cookie).connections.length := within
    have still : (app.spliced n extra).pages.get? route = some page := found
    rw [loadPage_found still, loadPage_found found,
      numbered_spliced, sessionFor_spliced, ids_spliced, config_spliced]
    dsimp only
    split
    · rfl
    · next connection fresh =>
      rw [register_spliced within extra connection, shared_spliced, close_spliced]
      split <;> rfl

end

end App

namespace Http

def Body.moved (n : Nat) : Body → Body
  | .text s => .text s
  | .events channel => .events (channel.moved n)

/-- The answer with its push channel, if it has one, where it comes to lie. -/
def Response.moved (n : Nat) (response : Response) : Response :=
  { response with body := response.body.moved n }

section
variable {n : Nat} {app : App} (extra : Connection)

theorem servePage_spliced (within : n ≤ app.connections.length) (now : Instant) (route : String)
    (request : Request) :
    servePage (app.spliced n extra) now route request =
      ((servePage app now route request).1.spliced n extra,
        (servePage app now route request).2.moved n) := by
  unfold servePage
  dsimp only
  rw [App.loadPage_spliced within extra, App.config_spliced]
  generalize app.loadPage now route _ = loaded
  obtain ⟨after, error | page⟩ := loaded
  · cases error <;> rfl
  · dsimp only
    split
    · split <;> rfl
    · rfl

theorem serveEvents_spliced (now : Instant) (query : List Char) :
    serveEvents (app.spliced n extra) now query =
      ((serveEvents app now query).1.spliced n extra, (serveEvents app now query).2.moved n) := by
  unfold serveEvents
  split
  · next id named =>
    rw [App.subscribe_spliced]
    cases app.subscribe now id with
    | mk after channel => cases channel <;> rfl
  · rfl

theorem serveAction_spliced (now : Instant) (segment query : List Char) :
    serveAction (app.spliced n extra) now segment query =
      let served := serveAction app now segment query
      (served.1.spliced n extra, served.2.1, served.2.2.moved n) := by
  unfold serveAction
  split
  · next action payload _ _ =>
    rw [App.runRequest_spliced]
    obtain ⟨after, notes, outcome⟩ := app.runRequest now action payload
    cases outcome <;> rfl
  · rfl

theorem serveClose_spliced (body : Bytes) :
    serveClose (app.spliced n extra) body =
      ((serveClose app body).1.spliced n extra, (serveClose app body).2.moved n) := by
  unfold serveClose
  split
  · rfl
  · rw [App.close_spliced]
    rfl

theorem headOnly_moved (response : Response) :
    (response.moved n).headOnly = response.headOnly.moved n := by
  obtain ⟨status, setCookie, contentType, body⟩ := response
  cases body <;> rfl

theorem handle_spliced (within : n ≤ app.connections.length) (now : Instant) (request : Request) :
    handle (app.spliced n extra) now request =
      let served := handle app now request
      (served.1.spliced n extra, served.2.1, served.2.2.moved n) := by
  have wanted (left served : App × List Note × Response)
      (same : left = (served.1.spliced n extra, served.2.1, served.2.2.moved n)) (head : Bool) :
      (if head then (left.1, left.2.1, left.2.2.headOnly) else left) =
        let whole := if head then (served.1, served.2.1, served.2.2.headOnly) else served
        (whole.1.spliced n extra, whole.2.1, whole.2.2.moved n) := by
    cases head <;> simp [same, headOnly_moved]
  have leads : endpoint? (app.spliced n extra) (pathAndQuery request.target).1 =
      endpoint? app (pathAndQuery request.target).1 := rfl
  simp only [handle]
  refine wanted _ _ ?_ _
  rw [leads]
  cases endpoint? app (pathAndQuery request.target).1 with
  | none => rfl
  | some endpoint =>
    cases endpoint with
    | close =>
      dsimp only
      split
      · rw [serveClose_spliced]
      · rfl
    | page route =>
      dsimp only
      split
      · rw [servePage_spliced extra within]
      · rfl
    | pushChannel =>
      dsimp only
      split
      · rw [serveEvents_spliced]
      · rfl
    | action =>
      dsimp only
      split
      · rw [serveAction_spliced]
      · rfl

end

end Http

def Listener.moved (n : Nat) (listener : Listener) : Listener :=
  { listener with channel := listener.channel.moved n }

/-- Only the answer to a request can hold a push channel itself. -/
def Answer.moved (n : Nat) : Answer → Answer
  | .response made number => .response (made.moved n) number
  | answer => answer

namespace Scenario

/-- The scenario with one more connection, which is neither registered nor held nor listened to. -/
def spliced (n : Nat) (extra : Connection) (scenario : Scenario) : Scenario where
  app := scenario.app.spliced n extra
  held := scenario.held.map (shift n)
  listeners := scenario.listeners.map (Listener.moved n)

end Scenario

def Stepped.spliced (n : Nat) (extra : Connection) (stepped : Stepped) : Stepped :=
  ⟨stepped.scenario.spliced n extra, stepped.answer.moved n, stepped.notes⟩

namespace Scenario

section
variable {n : Nat} (extra : Connection) (scenario : Scenario)

@[simp] theorem app_spliced : (scenario.spliced n extra).app = scenario.app.spliced n extra := rfl

theorem place?_spliced (target : Target) :
    (scenario.spliced n extra).place? target = (scenario.place? target).map (shift n) := by
  cases target with
  | registered id => exact App.place?_spliced n extra scenario.app id
  | held number => exact List.getElem?_map

theorem find?_spliced (target : Target) :
    (scenario.spliced n extra).find? target =
      (scenario.find? target).map fun found => (shift n found.1, found.2) := by
  rw [find?, place?_spliced, find?]
  cases scenario.place? target <;> simp [Function.comp_def]

theorem onConnection_spliced (target : Target) (act : Connection → Connection × Answer)
    (plain : ∀ connection, (act connection).2.moved n = (act connection).2) :
    (scenario.spliced n extra).onConnection target act =
      (scenario.onConnection target act).spliced n extra := by
  rw [onConnection, find?_spliced, onConnection]
  cases scenario.find? target with
  | none => rfl
  | some found =>
    obtain ⟨place, connection⟩ := found
    simp [Stepped.spliced, answered, withApp, spliced, plain]

theorem listenAnswer_spliced (opened : App × Option PushChannel) :
    (scenario.spliced n extra).listenAnswer
        (opened.1.spliced n extra, opened.2.map (PushChannel.moved n)) =
      (scenario.listenAnswer opened).spliced n extra := by
  obtain ⟨after, channel⟩ := opened
  cases channel with
  | none => rfl
  | some channel =>
    simp [listenAnswer, listen, withApp, answered, Stepped.spliced, spliced, Answer.moved,
      Listener.moved]

theorem poll_spliced (number : Nat) (limit : Option Nat) :
    (scenario.spliced n extra).poll number limit =
      (scenario.poll number limit).spliced n extra := by
  have listening : (scenario.spliced n extra).listeners[number]? =
      scenario.listeners[number]?.map (Listener.moved n) := List.getElem?_map
  unfold poll
  rw [listening]
  cases scenario.listeners[number]? with
  | none => rfl
  | some listener =>
    simp only [Option.map_some, Listener.moved, app_spliced, App.readyLimit_spliced,
      App.take_spliced]
    split
    · rfl
    · split <;> rfl

theorem dropChannel_spliced (number : Nat) :
    (scenario.spliced n extra).dropChannel number =
      (scenario.dropChannel number).spliced n extra := by
  have moved : (scenario.listeners.map (Listener.moved n)).modify number
        (fun listener => { listener with dropped := true }) =
      (scenario.listeners.modify number fun listener => { listener with dropped := true }).map
        (Listener.moved n) := by
    apply List.ext_getElem?
    intro other
    simp only [List.getElem?_modify, List.getElem?_map]
    cases scenario.listeners[other]? with
    | none => simp
    | some listener => by_cases same : number = other <;> simp [same, Listener.moved]
  simp only [dropChannel, spliced, moved]

theorem hold_spliced (target : Target) :
    (scenario.spliced n extra).hold target = (scenario.hold target).spliced n extra := by
  rw [hold, place?_spliced, hold]
  cases scenario.place? target with
  | none => rfl
  | some place => simp [answered, Stepped.spliced, spliced, Answer.moved]

theorem direct_spliced (now : Instant) (target : Target) (mode : Mode) (action : String)
    (body : List DirectStatement) :
    (scenario.spliced n extra).direct now target mode action body =
      (scenario.direct now target mode action body).spliced n extra := by
  rw [direct, find?_spliced, direct]
  cases scenario.find? target with
  | none => rfl
  | some found =>
    obtain ⟨place, connection⟩ := found
    simp only [Option.map_some, app_spliced, App.spliced_setConnection]
    rfl

theorem serve_spliced (within : n ≤ scenario.app.connections.length) (now : Instant)
    (request : Http.Request) :
    (scenario.spliced n extra).serve now request =
      (scenario.serve now request).spliced n extra := by
  unfold serve
  rw [app_spliced, Http.handle_spliced extra within]
  obtain ⟨after, notes, status, setCookie, contentType, body⟩ :=
    Http.handle scenario.app now request
  cases body with
  | text s => rfl
  | events channel =>
    simp [Http.Response.moved, Http.Body.moved, listen, withApp, Stepped.spliced, spliced,
      Answer.moved, Listener.moved]

/-- Each step is taken in the same way with the connection put in and without it. -/
theorem step_spliced (within : n ≤ scenario.app.connections.length) (now : Instant) (step : Step) :
    (scenario.spliced n extra).step now step = (scenario.step now step).spliced n extra := by
  cases step with
  | render route cookie =>
    simp only [Scenario.step, app_spliced, App.loadPage_spliced within extra]
    generalize scenario.app.loadPage now route cookie = loaded
    obtain ⟨after, error | page⟩ := loaded <;> rfl
  | runRequest action payload =>
    simp only [Scenario.step, app_spliced, App.runRequest_spliced]
    generalize scenario.app.runRequest now action payload = ran
    obtain ⟨after, notes, error | outcome⟩ := ran <;> rfl
  | runAction connection action signals =>
    simp only [Scenario.step, app_spliced, App.runAction_spliced]
    rfl
  | create connection session page =>
    simp only [Scenario.step, app_spliced, App.connect_spliced within extra]
    cases scenario.app.connect now connection session page <;> rfl
  | subscribe connection =>
    simp only [Scenario.step, app_spliced, App.subscribe_spliced]
    exact scenario.listenAnswer_spliced extra (scenario.app.subscribe now connection)
  | subscribeTo target =>
    simp only [Scenario.step, place?_spliced]
    cases scenario.place? target with
    | none => rfl
    | some place =>
      simp only [Option.map_some, app_spliced, App.subscribeAt_spliced]
      exact scenario.listenAnswer_spliced extra (scenario.app.subscribeAt place)
  | poll number limit => exact scenario.poll_spliced extra number limit
  | dropChannel number =>
    simp only [Scenario.step, dropChannel_spliced]
    rfl
  | pop target =>
    simp only [Scenario.step]
    exact scenario.onConnection_spliced extra target _ fun connection => rfl
  | drain target =>
    simp only [Scenario.step]
    exact scenario.onConnection_spliced extra target _ fun connection => rfl
  | inspect target =>
    simp only [Scenario.step, find?_spliced]
    cases scenario.find? target <;> rfl
  | hold target => exact scenario.hold_spliced extra target
  | direct target mode action body =>
    exact scenario.direct_spliced extra now target mode action body
  | close connection =>
    simp only [Scenario.step, app_spliced, App.close_spliced]
    rfl
  | refresh connection =>
    simp only [Scenario.step, app_spliced, App.refresh_spliced]
    rfl
  | sweep instant ttl =>
    simp only [Scenario.step, app_spliced, App.sweep_spliced]
    rfl
  | sweepNow ttl =>
    simp only [Scenario.step, app_spliced, App.sweep_spliced]
    rfl
  | runSweeper ttl =>
    have size (app : App) : (app.spliced n extra).registered.size = app.registered.size :=
      KeyMap.size_map _ _
    simp only [Scenario.step, app_spliced, App.runSweeper_spliced, size]
    rfl
  | stats =>
    simp only [Scenario.step, app_spliced, App.stats_spliced]
    rfl
  | request request => exact scenario.serve_spliced extra within now request
  | _ => rfl

end

/-- The scenario in which other ids are the next to be generated. -/
def drawing (scenario : Scenario) (ids : IdSource) : Scenario :=
  scenario.withApp { scenario.app with ids }

/-- Runs steps in order, with what is answered and noted at each. Before a step other ids may be
drawn than the next in number. -/
def drawn (scenario : Scenario) :
    List (Option IdSource × Instant × Step) → List (Answer × List Note)
  | [] => []
  | (ids, now, step) :: rest =>
    let stepped := (scenario.drawing (ids.getD scenario.app.ids)).step now step
    (stepped.answer, stepped.notes) :: stepped.scenario.drawn rest

theorem drawn_spliced {n : Nat} {scenario : Scenario} (within : n ≤ scenario.app.connections.length)
    (extra : Connection) (steps : List (Option IdSource × Instant × Step)) :
    (scenario.spliced n extra).drawn steps =
      (scenario.drawn steps).map fun told => (told.1.moved n, told.2) := by
  induction steps generalizing scenario with
  | nil => rfl
  | cons first rest ih =>
    obtain ⟨ids, now, step⟩ := first
    let before := scenario.drawing (ids.getD scenario.app.ids)
    have drawing : (scenario.spliced n extra).drawing
        (ids.getD (scenario.spliced n extra).app.ids) = before.spliced n extra := rfl
    have stepped := before.step_spliced extra within now step
    have grown := (before.step_continues now step).length_le
    simp only [drawn, drawing, stepped, List.map_cons]
    exact congrArg _ (ih (Nat.le_trans within grown))

end Scenario
end LiveTabs
