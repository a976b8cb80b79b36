import LiveTabs.Proofs.FailedRenders
import LiveTabs.Proofs.Settings
/-!
How much room the queue of a tab is given. A capacity is accepted for any number of 64 bits that is
not zero, but a queue cannot be made for as much as that. Up to the limit of a queue, tabs are
opened in whatever state the application is; beyond it no tab is ever opened.
-/
namespace LiveTabs

namespace Outbox

theorem ofCapacity?_of_room {capacity : Nat} (room : capacity ≤ greatestLimit) :
    ofCapacity? capacity = some ⟨max capacity 1, []⟩ :=
  if_pos (Nat.max_le.mpr ⟨room, by decide⟩)

theorem ofCapacity?_of_beyond {capacity : Nat} (beyond : greatestLimit < capacity) :
    ofCapacity? capacity = none :=
  if_neg fun room => Nat.not_le.mpr beyond (Nat.max_le.mp room).1

end Outbox

namespace Connection
variable (now : Instant) (id : String) (session : Option String) (page : Page) {capacity : Nat}

theorem fresh?_of_room (room : capacity ≤ Outbox.greatestLimit) :
    fresh? now id session page capacity =
      some ⟨id, session, page, Tab.fresh page.toCatalog, ⟨max capacity 1, []⟩, now, .opened 0⟩ := by
  rw [fresh?, Outbox.ofCapacity?_of_room room]
  rfl

theorem fresh?_of_beyond (beyond : Outbox.greatestLimit < capacity) :
    fresh? now id session page capacity = none := by
  rw [fresh?, Outbox.ofCapacity?_of_beyond beyond]
  rfl

end Connection

namespace Config

theorem absent_or_given (lookup : String → Option String) (setting : Setting) :
    Absent lookup setting ∨ ∃ raw text, Given lookup setting raw text := by
  cases valued : valueOf lookup setting with
  | none => exact .inl (absent_iff.mpr valued)
  | some raw => exact .inr ⟨raw, _, given_iff.mpr ⟨valued, rfl⟩⟩

/-- The variable of the queue's capacity denotes a number of more than 61 bits. -/
def Excessive (lookup : String → Option String) : Prop :=
  ∃ raw text n, Given lookup .patchQueueCapacity raw text ∧ Counts text n ∧ 2 ^ 61 ≤ n

section
variable {lookup : String → Option String} {config : Config}
  (accepted : ofVariables lookup = .ok config)
include accepted

/-- A capacity is accepted up to the greatest number of 64 bits. -/
theorem patchQueueCapacity_bounds :
    1 ≤ config.patchQueueCapacity ∧ config.patchQueueCapacity ≤ 2 ^ 64 - 1 := by
  obtain ⟨valid, read⟩ := ofVariables_ok accepted
  obtain absent | ⟨raw, text, given⟩ := absent_or_given lookup .patchQueueCapacity
  · rw [read.patchQueueCapacity.absent absent]
    decide
  · obtain ⟨n, counts, positive, bounded⟩ := valid .patchQueueCapacity raw text given
    rw [counts.unique (read.patchQueueCapacity.given raw text given)]
    exact ⟨positive, bounded⟩

/-- Only the variable can ask for that much; the default does not. -/
theorem excessive_iff : Excessive lookup ↔ Outbox.greatestLimit < config.patchQueueCapacity := by
  have read := (ofVariables_ok accepted).2.patchQueueCapacity
  constructor
  · rintro ⟨raw, text, n, given, counts, large⟩
    rw [counts.unique (read.given raw text given)]
    exact large
  · intro beyond
    obtain absent | ⟨raw, text, given⟩ := absent_or_given lookup .patchQueueCapacity
    · rw [read.absent absent] at beyond
      exact absurd beyond (by decide)
    · exact ⟨raw, text, _, given, read.given raw text given, beyond⟩

end

end Config

namespace App

/-- The tab in which a page is rendered, if one can be opened. -/
def nextTab (app : App) (now : Instant) (cookie : Option String) (page : Page) : Connection where
  id := IdSource.connectionId app.ids.connections
  session := some (app.sessionFor now cookie).2.id
  page := page
  tab := Tab.fresh page.toCatalog
  queue := ⟨max app.config.patchQueueCapacity 1, []⟩
  lastAccess := now
  channel := .opened 0

/-- Nothing in the page's view panics when it is rendered. -/
def Calm (app : App) (now : Instant) (cookie : Option String) (page : Page) : Prop :=
  ∀ part ∈ page.view,
    ¬ ((app.nextTab now cookie page).scene (app.sessionFor now cookie).1.shared .view).Panics part

theorem calm_iff (app : App) (now : Instant) (cookie : Option String) (page : Page) :
    app.Calm now cookie page ↔
      (app.nextTab now cookie page).pageMarkup (app.sessionFor now cookie).1.shared ≠ none := by
  rw [ne_eq, Connection.pageMarkup_eq_none_iff, not_exists]
  exact forall_congr' fun part => not_and.symm

/-- A connection can be created for any page, and a page is rendered unless its view panics. -/
structure OpensTabs (app : App) : Prop where
  creates : ∀ now id session page, app.connect now id session page =
    some (app.register ⟨id, session, page, Tab.fresh page.toCatalog,
      ⟨max app.config.patchQueueCapacity 1, []⟩, now, .opened 0⟩)
  renders : ∀ now route cookie page, app.pages.get? route = some page → app.Calm now cookie page →
    ∃ loaded, (app.loadPage now route cookie).2 = .ok loaded ∧
      loaded.StandsIn app (app.loadPage now route cookie).1 route (app.nextTab now cookie page)
  uncrashed : ∀ now route cookie, (app.loadPage now route cookie).2 ≠ .error .crashed

/-- There is no connection, and none can be created. A page is not rendered whatever its view, but
the cookie's session is resolved. Over HTTP that is a failure of the server. -/
structure OpensNone (app : App) : Prop where
  vacant : app.connections = []
  creates : ∀ now id session page, app.connect now id session page = none
  renders : ∀ now route cookie, route ∈ app.pages.keys →
    app.loadPage now route cookie = (app.numbered now cookie, .error .crashed)
  serves : ∀ now route request, route ∈ app.pages.keys →
    (Http.servePage app now route request).2 = Http.plain 500

theorem loadPage_rendered {app : App} {now : Instant} {route : String} {cookie : Option String}
    {connection : Connection} {root : String}
    (routed : app.pages.get? route = some connection.page)
    (fresh : Connection.fresh? now (IdSource.connectionId app.ids.connections)
      (some (app.sessionFor now cookie).2.id) connection.page app.config.patchQueueCapacity =
        some connection)
    (rendered : connection.pageMarkup ((app.numbered now cookie).register connection).shared =
      some root) :
    app.loadPage now route cookie =
      ((app.numbered now cookie).register connection,
        .ok ⟨IdSource.connectionId app.ids.connections, (app.sessionFor now cookie).2.id,
          (app.sessionFor now cookie).2.minted,
          Markup.document (IdSource.connectionId app.ids.connections) app.config.clientScript
            root⟩) := by
  rw [loadPage_found routed]
  simp only [fresh, rendered]

theorem loadPage_calm_stands {app : App} {now : Instant} {route : String} {cookie : Option String}
    {page : Page} (room : app.config.patchQueueCapacity ≤ Outbox.greatestLimit)
    (routed : app.pages.get? route = some page) (calm : app.Calm now cookie page) :
    ∃ loaded, (app.loadPage now route cookie).2 = .ok loaded ∧
      loaded.StandsIn app (app.loadPage now route cookie).1 route
        (app.nextTab now cookie page) := by
  have fresh : Connection.fresh? now (IdSource.connectionId app.ids.connections)
      (some (app.sessionFor now cookie).2.id) page app.config.patchQueueCapacity =
        some (app.nextTab now cookie page) :=
    Connection.fresh?_of_room _ _ _ _ room
  obtain ⟨root, rendered⟩ :=
    Option.ne_none_iff_exists'.mp ((app.calm_iff now cookie page).mp calm)
  have shared : ((app.numbered now cookie).register (app.nextTab now cookie page)).shared =
      (app.sessionFor now cookie).1.shared := register_shared _ _
  rw [← shared] at rendered
  rw [loadPage_rendered routed fresh rendered]
  have shown := ((app.nextTab now cookie page).pageMarkup_enter _ .view).trans rendered
  exact ⟨_, rfl, lookup_register _ (app.nextTab now cookie page), rfl, routed, root, shown, rfl⟩

theorem opensTabs_of_room {app : App}
    (room : app.config.patchQueueCapacity ≤ Outbox.greatestLimit) : app.OpensTabs := by
  refine ⟨fun now id session page => ?_, fun now route cookie page => loadPage_calm_stands room,
    fun now route cookie crashed => ?_⟩
  · rw [connect, Connection.fresh?_of_room _ _ _ _ room]
    rfl
  · have loads := app.loadPage_loads now route cookie
    generalize app.loadPage now route cookie = outcome at loads crashed
    cases loads with
    | crashed page routed beyond =>
      rw [Outbox.ofCapacity?_of_room room] at beyond
      cases beyond
    | unknown | panicked | rendered => cases crashed

/-- Without a queue there is no connection, and no change creates one. -/
theorem apply_vacant {app : App} (beyond : Outbox.greatestLimit < app.config.patchQueueCapacity)
    (vacant : app.connections = []) (now : Instant) (change : Change) :
    (app.apply now change).connections = [] := by
  have created := app.apply_created now change
  rw [vacant, List.length_nil, List.drop_zero] at created
  rw [created]
  cases change with
  | connect id session page => rw [App.created, Connection.fresh?_of_beyond _ _ _ _ beyond]; rfl
  | _ => rfl

theorem loadPage_crashed {app : App} (now : Instant) {route : String} (cookie : Option String)
    (beyond : Outbox.greatestLimit < app.config.patchQueueCapacity)
    (registered : route ∈ app.pages.keys) :
    app.loadPage now route cookie = (app.numbered now cookie, .error .crashed) := by
  obtain ⟨page, routed⟩ := Option.isSome_iff_exists.mp ((KeyMap.mem_keys_iff _ _).mp registered)
  rw [loadPage_found routed]
  simp only [Connection.fresh?_of_beyond _ _ _ _ beyond]

theorem opensNone_of_beyond {app : App}
    (beyond : Outbox.greatestLimit < app.config.patchQueueCapacity)
    (vacant : app.connections = []) : app.OpensNone := by
  refine ⟨vacant, fun now id session page => ?_,
    fun now route cookie => loadPage_crashed now cookie beyond,
    fun now route request registered => ?_⟩
  · rw [connect, Connection.fresh?_of_beyond _ _ _ _ beyond]
    rfl
  · simp only [Http.servePage, loadPage_crashed now _ beyond registered]

end App

theorem Scenario.reached_vacant {scenario : Scenario}
    (beyond : Outbox.greatestLimit < scenario.app.config.patchQueueCapacity)
    (vacant : scenario.app.connections = []) (steps : List (Instant × Step)) :
    (scenario.reached steps).app.connections = [] := by
  -- A change could create a connection only under another configuration.
  refine (reached_induction (motive := fun app =>
    Outbox.greatestLimit < app.config.patchQueueCapacity ∧ app.connections = []) ?_ scenario steps
    ⟨beyond, vacant⟩).2
  rintro now app change ⟨beyond, vacant⟩
  rw [(app.apply_fixed now change).2]
  exact ⟨beyond, App.apply_vacant beyond vacant now change⟩

/-- A capacity that is accepted is one that a queue can have unless its variable asks for more than
61 bits. Then, in every state that can be reached, connections are created and pages rendered
without a crash; otherwise there is never a connection, and rendering any page crashes. -/
theorem tabs_open_unless_excessive {lookup : String → Option String} {config : Config}
    (accepted : Config.ofVariables lookup = .ok config) {pages : List Page} {app : App}
    (built : App.build config pages = .ok app) (past : List (Instant × Step)) :
    let current := ((Scenario.ofApp app).reached past).app
    (¬ Config.Excessive lookup ↔
      1 ≤ config.patchQueueCapacity ∧ config.patchQueueCapacity ≤ 2 ^ 61 - 1) ∧
    (¬ Config.Excessive lookup → current.OpensTabs) ∧
    (Config.Excessive lookup → current.OpensNone) := by
  intro current
  have bounds := Config.patchQueueCapacity_bounds accepted
  have excessive := Config.excessive_iff accepted
  have fixed : current.config = config :=
    ((Scenario.ofApp app).reached_fixed past).2.trans (App.config_of_built built)
  refine ⟨?_, fun moderate => ?_, fun excess => ?_⟩
  · rw [excessive, Nat.not_lt]
    exact (and_iff_right bounds.1).symm
  · rw [excessive, Nat.not_lt] at moderate
    exact App.opensTabs_of_room (fixed.symm ▸ moderate)
  · rw [excessive] at excess
    have start : Outbox.greatestLimit < (Scenario.ofApp app).app.config.patchQueueCapacity := by
      rw [Scenario.ofApp, App.config_of_built built]
      exact excess
    exact App.opensNone_of_beyond (fixed.symm ▸ excess)
      (Scenario.reached_vacant start (App.build_empty built).1 past)

-- Only the capacity is set, to all that a queue can hold or to one more. The page is calm for a new
-- session, and would panic in the one that has a storm stored.
def capacityOnly (raw : String) : String → Option String := fun name =>
  if name = Setting.patchQueueCapacity.name then some raw else none

def weatherWith (capacity : Nat) : App :=
  { weatherApp with config := { Config.defaults with patchQueueCapacity := capacity } }

theorem tabs_open_unless_excessive_at_limit :
    let roomy := weatherWith 2305843009213693951
    let crowded := weatherWith 2305843009213693952
    let visited := ((Scenario.ofApp roomy).reached stormVisit).app
    let missed := ((Scenario.ofApp crowded).reached stormVisit).app
    Config.ofVariables (capacityOnly " +02305843009213693951") = .ok roomy.config ∧
    Config.ofVariables (capacityOnly "2305843009213693952") = .ok crowded.config ∧
    App.build roomy.config [weatherPage] = .ok roomy ∧
    App.build crowded.config [weatherPage] = .ok crowded ∧
    ¬ Config.Excessive (capacityOnly " +02305843009213693951") ∧
    Config.Excessive (capacityOnly "2305843009213693952") ∧
    visited.Calm 7 none weatherPage ∧ (∃ page, (visited.loadPage 7 "/" none).2 = .ok page) ∧
    missed.connections = [] ∧ missed.connect 7 "tab" none weatherPage = none ∧
    missed.loadPage 7 "/" (some "@sess0@") =
      (missed.numbered 7 (some "@sess0@"), .error .crashed) := by
  intro roomy crowded visited missed
  have accepted : Config.ofVariables (capacityOnly " +02305843009213693951") = .ok roomy.config :=
    rfl
  have alsoAccepted : Config.ofVariables (capacityOnly "2305843009213693952") =
      .ok crowded.config := rfl
  have built : App.build roomy.config [weatherPage] = .ok roomy := rfl
  have alsoBuilt : App.build crowded.config [weatherPage] = .ok crowded := rfl
  obtain ⟨range, opens, -⟩ := tabs_open_unless_excessive accepted built stormVisit
  obtain ⟨-, -, opensNone⟩ := tabs_open_unless_excessive alsoAccepted alsoBuilt stormVisit
  have moderate := range.mpr (by decide)
  have excess := (Config.excessive_iff alsoAccepted).mpr (by decide)
  have calm : visited.Calm 7 none weatherPage :=
    (visited.calm_iff 7 none weatherPage).mpr (by decide +kernel)
  obtain ⟨page, rendered, -⟩ := (opens moderate).renders 7 "/" none weatherPage rfl calm
  obtain ⟨vacant, uncreated, crashes, -⟩ := opensNone excess
  exact ⟨accepted, alsoAccepted, built, alsoBuilt, moderate, excess, calm, ⟨page, rendered⟩, vacant,
    uncreated 7 "tab" none weatherPage, crashes 7 "/" (some "@sess0@") (by decide)⟩

/-- That a configuration is accepted does not make room for a tab. With a capacity one beyond what a
queue can hold, a connection cannot be created, and a page crashes whose view is calm. -/
theorem accepted_capacity_crashes :
    let crowded := weatherWith 2305843009213693952
    Config.ofVariables (capacityOnly "2305843009213693952") = .ok crowded.config ∧
    App.build crowded.config [weatherPage] = .ok crowded ∧
    crowded.pages.get? "/" = some weatherPage ∧ crowded.Calm 1 none weatherPage ∧
    crowded.connect 1 "tab" none weatherPage = none ∧
    (crowded.loadPage 1 "/" none).2 = .error .crashed ∧
    (Http.handle crowded 1 firstVisit).2.2 = Http.plain 500 := by
  intro crowded
  have built : App.build crowded.config [weatherPage] = .ok crowded := rfl
  have calm : crowded.Calm 1 none weatherPage :=
    (crowded.calm_iff 1 none weatherPage).mpr (by decide +kernel)
  have literal : Http.IsLiteral "/" := by
    intro c slash
    obtain rfl := List.mem_singleton.mp slash
    decide
  have leads : Http.endpoint? crowded (Http.pathAndQuery firstVisit.target).1 = some (.page "/") :=
    Http.endpoint?_page (App.routed_of_built built) (by decide) literal
  have answered : (Http.handle crowded 1 firstVisit).2.2 = Http.plain 500 := by
    rw [Http.handle_page (.inl rfl) leads]
    rfl
  exact ⟨rfl, built, rfl, calm, rfl, rfl, answered⟩

end LiveTabs
