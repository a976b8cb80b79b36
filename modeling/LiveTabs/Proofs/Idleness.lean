import LiveTabs.Proofs.Confinement
import LiveTabs.Proofs.Splicing
/-!
Between actions every tab is idle, and nothing is written but by an action. Whatever else is done to
a connection leaves its tab alone; a page is rendered into a new tab and leaves it new.
-/
namespace LiveTabs

namespace Passage

/-- Works in the tab. -/
def works : Passage → Bool
  | .work _ _ _ _ => true
  | .move (.action _ _ _ _) => true
  | _ => false

end Passage

namespace Connection

theorem undergo_tab (connection : Connection) {passage : Passage} (idle : passage.works = false) :
    (connection.undergo passage).tab = connection.tab := by
  cases passage with
  | offer patch => rfl
  | work shared now mode deeds => cases idle
  | move move =>
    cases move with
    | action shared now name signals => cases idle
    | subscribe => exact connection.subscribe_tab
    | poll generation => exact connection.poll_tab generation
    | pop => rfl
    | drain => rfl
    | refresh now => rfl
    | retire => rfl

theorem undergoAll_tab (connection : Connection) {passages : List Passage}
    (idle : ∀ passage ∈ passages, passage.works = false) :
    (connection.undergoAll passages).tab = connection.tab := by
  induction passages generalizing connection with
  | nil => rfl
  | cons passage rest ih =>
    rw [undergoAll_cons, ih _ fun other member => idle other (List.mem_cons_of_mem passage member)]
    exact connection.undergo_tab (idle passage List.mem_cons_self)

/-- Whatever a connection undergoes, its tab is idle after it. -/
theorem undergo_idle {connection : Connection} (idle : connection.tab.mode = .idle)
    (passage : Passage) : (connection.undergo passage).tab.mode = .idle := by
  cases works : passage.works with
  | false => rw [connection.undergo_tab works, idle]
  | true =>
    cases passage with
    | offer patch => cases works
    | work shared now mode deeds => rfl
    | move move =>
      cases move with
      | action shared now name signals =>
        obtain ⟨kept, -⟩ | ⟨deeds, same, -⟩ := connection.action_works shared now name signals
        · rw [kept, idle]
        · rw [same]
          rfl
      | _ => cases works

theorem undergoAll_idle {connection : Connection} (idle : connection.tab.mode = .idle)
    (passages : List Passage) : (connection.undergoAll passages).tab.mode = .idle := by
  induction passages generalizing connection with
  | nil => exact idle
  | cons passage rest ih => exact ih (undergo_idle idle passage)

end Connection

namespace App

theorem passages_idle {app : App} {place : Nat} {now : Instant} {change : Change}
    (idle : change.works = false) :
    ∀ passage ∈ app.passages place now change, passage.works = false := by
  have one {found : Prop} [Decidable found] (move : Move)
      (still : (Passage.move move).works = false) :
      ∀ passage ∈ if found then [Passage.move move] else [], passage.works = false := by
    intro passage member
    rw [List.mem_singleton.mp (List.mem_ite_nil_right.mp member).2]
    exact still
  cases change with
  | work other mode deeds => cases idle
  | touch other => exact one _ rfl
  | subscribe other => exact one _ rfl
  | poll channel => exact one _ rfl
  | pop other => exact one _ rfl
  | drain other => exact one _ rfl
  | connect id session page => exact one _ rfl
  | close id => exact one _ rfl
  | sweep instant ttl =>
    intro passage member
    obtain ⟨entry, -, rfl⟩ := List.mem_map.mp member
    rfl
  | _ => exact List.forall_mem_nil _

/-- Short of work in it, nothing is done to a tab. -/
theorem apply_tab {app : App} {place : Nat} {connection : Connection}
    (here : app.connections[place]? = some connection) (now : Instant) {change : Change}
    (idle : change.works = false) :
    ∃ later, (app.apply now change).connections[place]? = some later ∧
      later.tab = connection.tab ∧ later.page = connection.page := by
  obtain ⟨later, there, continued⟩ := app.apply_continues now change place connection here
  have undergone := there.symm.trans (apply_passages here now change)
  refine ⟨later, there, ?_, continued.page⟩
  rw [Option.some.inj undergone]
  exact connection.undergoAll_tab (passages_idle idle)

theorem refreshChanges_idle (app : App) (id : String) :
    (app.refreshChanges id).all (!·.works) = true :=
  refreshChanges_all (fun _ => rfl) (fun _ => rfl) app id

theorem takeChanges_idle (app : App) (channel : PushChannel) (limit : Nat) :
    (app.takeChanges channel limit).all (!·.works) = true :=
  takeChanges_all rfl app limit

/-- Every tab is idle. -/
def Idle (app : App) : Prop :=
  ∀ (place : Nat) (connection : Connection), app.connections[place]? = some connection →
    connection.tab.mode = .idle

theorem idle_apply {app : App} (idle : app.Idle) (now : Instant) (change : Change) :
    (app.apply now change).Idle := by
  intro place connection there
  cases here : app.connections[place]? with
  | some before =>
    have undergone := there.symm.trans (apply_passages here now change)
    rw [Option.some.inj undergone]
    exact Connection.undergoAll_idle (idle place before here) _
  | none =>
    obtain ⟨id, session, page, -, -, fresh⟩ := created_of_new here there
    rw [(Connection.fresh?_starts fresh).1]
    rfl

end App

/-! What is refused outside an action. -/

/-- What a handler may try to do to its tab and to what is shared. -/
inductive Attempt where
  | setState (now : Instant) (handle : AnyState) (value : handle.1.Carrier)
  | setSignal (handle : AnySignal) (value : handle.1.Carrier)
  | sync (target : Component View)
  | sendElements (html : String)
  | sendSignals
  | sendScript (text : String)

/-- Is refused outside an action, or has no effect in any mode. -/
def DirectStatement.guarded : DirectStatement → Bool
  | .perform .refuseSession => false
  | .perform _ => true
  | .takeOver _ => false

namespace Scene

def answering (done : Scene × Bool) : Scene × Option Bool := (done.1, some done.2)

/-- What is left of the scene, and the answer; none is a panic of the view that is rendered. -/
def attempt (scene : Scene) : Attempt → Scene × Option Bool
  | .setState now handle value => answering (scene.setState now handle.2 value)
  | .setSignal handle value => answering (scene.setSignal handle.2 value)
  | .sync target => scene.sync target
  | .sendElements html => answering (scene.sendElements html)
  | .sendSignals => answering scene.sendSignals
  | .sendScript text => answering (scene.sendScript text)

def attemptAll (scene : Scene) : List Attempt → Scene × List (Option Bool)
  | [] => (scene, [])
  | attempt :: rest =>
    let first := scene.attempt attempt
    let others := first.1.attemptAll rest
    (others.1, first.2 :: others.2)

variable {scene : Scene} (outside : scene.mayWrite = false)
include outside

theorem attempt_refused (attempt : Attempt) : scene.attempt attempt = (scene, some false) := by
  cases attempt with
  | setState now handle value => simp [Scene.attempt, answering, setState, outside]
  | setSignal handle value => simp [Scene.attempt, answering, setSignal, outside]
  | sync target => simp [Scene.attempt, sync, outside]
  | sendElements html => simp [Scene.attempt, answering, sendElements, outside]
  | sendSignals => simp [Scene.attempt, answering, sendSignals, outside]
  | sendScript text => simp [Scene.attempt, answering, sendScript, outside]

theorem attemptAll_refused (attempts : List Attempt) :
    scene.attemptAll attempts = (scene, attempts.map fun _ => some false) := by
  induction attempts with
  | nil => rfl
  | cons attempt rest ih =>
    rw [attemptAll, attempt_refused outside, ih]
    rfl

theorem deeds?_outside (invocation : Invocation) {statement : Statement}
    (guarded : (DirectStatement.perform statement).guarded = true) :
    (scene.deeds? invocation statement).getD [] = [] := by
  cases statement with
  | refuseSession => cases guarded
  | _ => simp [deeds?, permitted, outside]

theorem directAll_outside (declared : String → Bool) (invocation : Invocation)
    {body : List DirectStatement} (guarded : body.all DirectStatement.guarded = true) :
    (scene.directAll declared invocation body).1 = scene := by
  induction body with
  | nil => rfl
  | cons statement rest ih =>
    obtain ⟨first, others⟩ := (Bool.and_eq_true _ _).mp guarded
    have still : (scene.direct declared invocation statement).1 = scene := by
      rw [direct_deeds]
      cases statement with
      | takeOver values => cases first
      | perform statement =>
        rw [directStatementDeeds, deeds?_outside outside invocation first]
        rfl
    rw [directAll, still]
    exact ih others

end Scene

/-- The tab and the shared values after this and that was tried, in the mode that the tab is in. -/
def Connection.tried (connection : Connection) (shared : Shared) (attempts : List Attempt) :
    Connection × Shared :=
  let left := ((connection.scene shared connection.tab.mode).attemptAll attempts).1
  ({ connection with tab := left.tab, queue := left.queue }, left.shared)

theorem Connection.tried_viewing {connection : Connection} (busy : connection.tab.mode = .view)
    (shared : Shared) (attempts : List Attempt) :
    connection.tried shared attempts = (connection, shared) := by
  have outside : (connection.scene shared connection.tab.mode).mayWrite = false := by
    rw [Scene.mayWrite, Connection.scene, busy]
    rfl
  simp only [tried, Scene.attemptAll_refused outside]
  rfl

/-- Renders a page whose view first tries this and that in its tab. -/
def App.renderTrying (app : App) (place : Nat) (attempts : List Attempt) : App × Option String :=
  let viewing := app.viewing place
  match viewing.connections[place]? with
  | none => (viewing.modify place (·.enter .idle), none)
  | some connection =>
    let (tried, shared) := connection.tried viewing.shared attempts
    (({ viewing.setConnection place tried with shared }).modify place (·.enter .idle),
      tried.pageMarkup shared)

theorem Connection.resume_idle {connection : Connection} (idle : connection.tab.mode = .idle)
    (shared : Shared) (mode : Mode) :
    connection.resume (connection.scene shared mode) = connection := by
  simp only [resume, scene, ← idle]

/-- In an idle tab nothing comes of working outside an action. -/
theorem Scenario.direct_outside {scenario : Scenario} (idle : scenario.app.Idle) (now : Instant)
    (target : Target) {mode : Mode} (outside : mode = .idle ∨ mode = .view) (action : String)
    {body : List DirectStatement} (guarded : body.all DirectStatement.guarded = true) :
    (scenario.step now (.direct target mode action body)).scenario = scenario := by
  rw [step, direct]
  cases found : scenario.find? target with
  | none => rfl
  | some there =>
    obtain ⟨place, connection⟩ := there
    have here := found_of_find? found
    have refused : (connection.scene scenario.app.shared mode).mayWrite = false := by
      obtain rfl | rfl := outside <;> rfl
    have still := Scene.directAll_outside refused connection.page.knowsSignal
      (Page.invocation connection.page action now) guarded
    simp only [Connection.direct, still, Connection.resume_idle (idle place connection here)]
    rw [App.setConnection_same here]
    rfl

/-! What a page render leaves. -/

namespace Change

/-- Opens no connection but on the given page, and writes nothing. -/
def Opens (page : Option Page) : Change → Prop
  | .connect _ _ opened => page = some opened
  | .close _ => True
  | .ensureSession _ => True
  | .refreshSession _ => True
  | .number _ => True
  | _ => False

theorem clerical_of_opens {page : Option Page} {change : Change} (opens : change.Opens page) :
    change.clerical = true := by
  cases change with
  | connect id session opened => rfl
  | close id => rfl
  | ensureSession id => rfl
  | refreshSession id => rfl
  | number ids => rfl
  | _ => cases opens

end Change

namespace App

/-- All that is stored or queued is as before, and the tabs that came are new ones of the page. -/
structure Untouched (page : Option Page) (before after : App) : Prop where
  application : after.shared.application = before.shared.application
  sessions : ∀ id key, after.shared.sessions.get? id key = before.shared.sessions.get? id key
  kept : ∀ (place : Nat) (connection : Connection), before.connections[place]? = some connection →
    ∃ later, after.connections[place]? = some later ∧ later.tab = connection.tab ∧
      later.queue = connection.queue
  opened : ∀ (place : Nat) (connection : Connection), before.connections[place]? = none →
    after.connections[place]? = some connection →
      page = some connection.page ∧ connection.tab = Tab.fresh connection.page.toCatalog ∧
        connection.queue.pending = []

theorem apply_kept {change : Change} (clerical : change.clerical = true) {app : App} {place : Nat}
    {connection : Connection} (here : app.connections[place]? = some connection) (now : Instant) :
    ∃ later, (app.apply now change).connections[place]? = some later ∧
      later.page = connection.page ∧ later.tab = connection.tab ∧
      later.queue = connection.queue := by
  refine ⟨_, apply_passages here now change, ?_⟩
  obtain same | shut :=
    Connection.undergoAll_retires (fun _ member => retires_only clerical member) connection
  · rw [same]
    exact ⟨rfl, rfl, rfl⟩
  · rw [shut]
    exact ⟨rfl, rfl, rfl⟩

namespace Untouched
variable {page : Option Page} {before after : App}

theorem refl (page : Option Page) (app : App) : app.Untouched page app :=
  ⟨rfl, fun _ _ => rfl, fun _ connection here => ⟨connection, here, rfl, rfl⟩,
    fun place connection none here => by simp [none] at here⟩

theorem apply (untouched : before.Untouched page after) (now : Instant) {change : Change}
    (opens : change.Opens page) : before.Untouched page (after.apply now change) := by
  refine ⟨?_, fun id key => ?_, fun place connection here => ?_,
    fun place connection none there => ?_⟩
  · rw [← untouched.application]
    cases change with
    | connect other session opened => rw [apply_connect_shared]
    | close other => rw [App.apply, close_shared]
    | ensureSession other => rfl
    | refreshSession other => rfl
    | number ids => rfl
    | _ => cases opens
  · rw [← untouched.sessions]
    cases change with
    | connect other session opened => rw [apply_connect_shared]
    | close other => rw [App.apply, close_shared]
    | ensureSession other => exact after.shared.sessions.get?_ensure now other id key
    | refreshSession other => exact after.shared.sessions.get?_refresh now other id key
    | number ids => rfl
    | _ => cases opens
  · obtain ⟨middle, there, tab, queue⟩ := untouched.kept place connection here
    obtain ⟨later, stays, -, same, waiting⟩ := apply_kept (Change.clerical_of_opens opens) there now
    exact ⟨later, stays, same.trans tab, waiting.trans queue⟩
  · cases middle : after.connections[place]? with
    | some standing =>
      obtain ⟨opened, tab, queue⟩ := untouched.opened place standing none middle
      obtain ⟨later, stays, own, same, waiting⟩ :=
        apply_kept (Change.clerical_of_opens opens) middle now
      obtain rfl := Option.some.inj (stays.symm.trans there)
      rw [own, same, waiting]
      exact ⟨opened, tab, queue⟩
    | none =>
      obtain ⟨id, session, opened, rfl, -, fresh⟩ := created_of_new middle there
      obtain rfl := Connection.fresh?_eq fresh
      exact ⟨opens, rfl, rfl⟩

theorem applyAll (untouched : before.Untouched page after) (now : Instant) {changes : List Change}
    (opens : ∀ change ∈ changes, change.Opens page) :
    before.Untouched page (after.applyAll now changes) := by
  induction changes generalizing after with
  | nil => exact untouched
  | cons change rest ih =>
    exact ih (untouched.apply now (opens change List.mem_cons_self))
      fun other member => opens other (List.mem_cons_of_mem change member)

end Untouched

theorem sessionChanges_opens (page : Option Page) (app : App) (now : Instant)
    (cookie : Option String) : ∀ change ∈ app.sessionChanges now cookie, change.Opens page := by
  intro change member
  unfold sessionChanges at member
  dsimp only at member
  rcases List.mem_cons.mp member with rfl | later
  · trivial
  · split at later
    · rw [List.mem_singleton.mp later]
      trivial
    · rw [List.mem_singleton.mp later]
      trivial

theorem pageChanges_opens (app : App) (now : Instant) (route : String) (cookie : Option String) :
    ∀ change ∈ app.pageChanges now route cookie, change.Opens (app.pages.get? route) := by
  intro change member
  unfold pageChanges at member
  cases routed : app.pages.get? route with
  | none =>
    rw [routed] at member
    cases member
  | some page =>
    simp only [routed, List.mem_append, List.mem_cons, List.not_mem_nil, or_false] at member
    obtain (resolving | rfl | rfl) | closing := member
    · exact sessionChanges_opens _ app now cookie change resolving
    · trivial
    · rfl
    · split at closing
      · obtain rfl := List.mem_singleton.mp closing
        trivial
      · cases closing

/-- Between steps a page can be rendered in any tab, and it is as though it had not been. -/
theorem renderAt_unseen {app : App} (idle : app.Idle) (place : Nat) :
    (app.renderAt place).1 = app := by
  cases there : app.connections[place]? with
  | none =>
    have beyond := List.getElem?_eq_none_iff.mp there
    simp [renderAt, viewing, modify, List.modify_eq_self beyond]
  | some connection => rw [renderAt_idle there (idle place connection there)]

/-- Whatever a view tries before it renders is refused, since its tab is in view mode. -/
theorem renderTrying_refused (app : App) (place : Nat) (attempts : List Attempt) :
    app.renderTrying place attempts = app.renderAt place := by
  cases there : (app.viewing place).connections[place]? with
  | none => simp [renderTrying, renderAt, there]
  | some connection =>
    have busy : connection.tab.mode = .view := by
      rw [viewing, modify, List.getElem?_modify] at there
      obtain ⟨before, -, rfl⟩ := Option.map_eq_some_iff.mp there
      rw [if_pos rfl]
      rfl
    have same := Connection.tried_viewing busy (app.viewing place).shared attempts
    have kept := setConnection_same there
    simp only [renderTrying, renderAt, there, same, kept]
    rfl

/-- Rendering a page writes nothing, and its tab is left as it began. -/
theorem loadPage_untouched (app : App) (now : Instant) (route : String)
    (cookie : Option String) :
    app.Untouched (app.pages.get? route) (app.loadPage now route cookie).1 := by
  rw [loadPage_changes]
  exact (Untouched.refl _ app).applyAll now (app.pageChanges_opens now route cookie)

theorem loadPage_opened {app : App} {now : Instant} {route : String} {cookie : Option String}
    {page : LoadedPage} (loaded : (app.loadPage now route cookie).2 = .ok page) :
    ∃ connection,
      (app.loadPage now route cookie).1.connections[app.connections.length]? = some connection ∧
      (app.loadPage now route cookie).1.lookup page.connection = some connection := by
  have loads := app.loadPage_loads now route cookie
  generalize app.loadPage now route cookie = outcome at loads loaded ⊢
  cases loads with
  | rendered connection =>
    obtain rfl := Except.ok.inj loaded
    exact ⟨connection, register_last _ connection, lookup_register _ connection⟩
  | unknown | crashed | panicked => cases loaded

end App

/-- In every run the tabs are idle between steps, whatever came before. Outside an action whatever
is tried is refused and leaves everything as it is, so that nothing at all comes of trying it in a
tab. To render the page of a tab leaves everything as it is too, whatever its view tries and whether
or not it panics; and to load a page writes nothing anywhere, and leaves its tab as new. -/
theorem written_by_actions_only {config : Config} {pages : List Page} {app : App}
    (built : App.build config pages = .ok app) (steps : List (Instant × Step)) :
    let scenario := (Scenario.ofApp app).reached steps
    scenario.app.Idle ∧
    (∀ scene : Scene, scene.tab.mode = .idle ∨ scene.tab.mode = .view →
      ∀ attempts, scene.attemptAll attempts = (scene, attempts.map fun _ => some false)) ∧
    (∀ now target mode action body, mode = .idle ∨ mode = .view →
      body.all DirectStatement.guarded = true →
        (scenario.step now (.direct target mode action body)).scenario = scenario) ∧
    (∀ place, (scenario.app.renderAt place).1 = scenario.app ∧
      ∀ attempts, scenario.app.renderTrying place attempts = scenario.app.renderAt place) ∧
    ∀ now route cookie,
      let loaded := scenario.app.loadPage now route cookie
      scenario.app.Untouched (scenario.app.pages.get? route) loaded.1 ∧
      ∀ page, loaded.2 = .ok page → ∃ connection,
        loaded.1.connections[scenario.app.connections.length]? = some connection ∧
        loaded.1.lookup page.connection = some connection := by
  intro scenario
  have empty : app.Idle := fun place connection here => by
    simp [(App.build_empty built).1] at here
  have idle : scenario.app.Idle :=
    Scenario.reached_induction (motive := App.Idle)
      (fun now _ change before => App.idle_apply before now change) _ steps empty
  refine ⟨idle, fun scene outside attempts => ?_, fun now target mode action body outside guarded =>
    Scenario.direct_outside idle now target outside action guarded,
    fun place => ⟨App.renderAt_unseen idle place, scenario.app.renderTrying_refused place⟩,
    fun now route cookie =>
    ⟨scenario.app.loadPage_untouched now route cookie, fun page => App.loadPage_opened⟩⟩
  have refused : scene.mayWrite = false := by
    rcases outside with idling | viewing
    · rw [Scene.mayWrite, idling]
      rfl
    · rw [Scene.mayWrite, viewing]
      rfl
  exact Scene.attemptAll_refused refused attempts

-- The action panics after a write; the tab is idle again, and nothing can be written to it.
def greetingHandle : State .string := ⟨"greeting", .connection, "hello"⟩

def kioskPage : Page := .of {
  id := "kiosk"
  route := some "/"
  view := [.state ⟨.string, greetingHandle⟩]
  states := [⟨"greeting", .str "hello", .connection, none⟩]
  signals := []
  actions := KeyMap.ofList [
    ("greet", [.set (some ⟨.string, greetingHandle⟩) (.literal (.str "hi")), .panic])]
  owners := KeyMap.empty
  components := [] }

def kioskApp : App :=
  ⟨KeyMap.ofList [("/", kioskPage)], Config.defaults, Shared.empty, [], KeyMap.empty, ⟨0, 0⟩⟩

def greeting : List (Instant × Step) :=
  [(1, .render "/" none), (3, .runAction "@conn0@" "greet" KeyMap.empty)]

def silenced : Statement := .set (some ⟨.string, greetingHandle⟩) (.literal (.str "bye"))

theorem written_by_actions_only_greeting :
    App.build Config.defaults [kioskPage] = .ok kioskApp ∧
      let scenario := (Scenario.ofApp kioskApp).reached greeting
      scenario.app.Idle ∧
      (scenario.step 5
        (.direct (.registered "@conn0@") .view "greet" [.perform silenced])).scenario = scenario ∧
      (scenario.app.renderTrying 0 [.setState 5 ⟨.string, greetingHandle⟩ "bye"]).1 =
        scenario.app ∧
      ∃ connection, scenario.app.connections[0]? = some connection ∧
        connection.tab.values.get? "greeting" = some (.str "hi") ∧
        let scene := connection.scene scenario.app.shared .view
        scene.attemptAll [.setState 5 ⟨.string, greetingHandle⟩ "bye", .sync kioskPage.root] =
          (scene, [some false, some false]) := by
  have built : App.build Config.defaults [kioskPage] = .ok kioskApp := rfl
  obtain ⟨idle, refused, direct, rendering, -⟩ := written_by_actions_only built greeting
  obtain ⟨unseen, trying⟩ := rendering 0
  exact ⟨built, idle, direct 5 _ .view "greet" [.perform silenced] (.inr rfl) rfl,
    (congrArg Prod.fst (trying _)).trans unseen, _, rfl, rfl, refused _ (.inr rfl) _⟩

end LiveTabs
