import LiveTabs.Proofs.Confinement
/-!
A step taken on both sides, where a session has the same of the application: it goes on having the
same, and is answered the same.
-/
namespace LiveTabs

namespace Step

/-- The connection that a step is about. -/
def target? : Step → Option Target
  | .subscribeTo target => some target
  | .pop target => some target
  | .drain target => some target
  | .inspect target => some target
  | .hold target => some target
  | .direct target _ _ _ => some target
  | .close id => some (.registered id)
  | step => step.tabId?.map .registered

/-- The session whose values a step reads or writes from outside. -/
def sessionId? : Step → Option String
  | .session id _ => some id
  | .setSession id _ _ => some id
  | _ => none

/-- Runs an action. -/
def dispatches : Step → Bool
  | .runAction _ _ _ => true
  | .runRequest _ _ => true
  | _ => false

end Step

/-- Steps after which a session has the same of the application, and which were answered alike. -/
structure Stepped.Agrees (session : String) (first second : Stepped) : Prop where
  app : first.scenario.app.Agrees session second.scenario.app
  answer : first.answer = second.answer
  notes : first.notes = second.notes

namespace Scenario

/-- The place of the connection that a step is about. -/
def tabPlace? (scenario : Scenario) : Step → Option Nat
  | .poll number _ => scenario.listeners[number]?.map (·.channel.place)
  | step => step.target?.bind scenario.place?

/-- The tab of the session that a step is about. -/
def tab? (scenario : Scenario) (session : String) (step : Step) : Option Nat :=
  ((step.meant? scenario.app).bind scenario.tabPlace?).filter fun place =>
    (scenario.app.own? session place).isSome

/-- Where a target leads, if it leads to a tab of the session. -/
def ownPlace? (scenario : Scenario) (session : String) (target : Target) : Option Nat :=
  (scenario.place? target).filter fun place => (scenario.app.own? session place).isSome

/-- A step is about a tab of the session, or comes with its cookie, or reads or writes its values. -/
def concerns (scenario : Scenario) (session : String) (now : Instant) (step : Step) : Bool :=
  (scenario.tab? session step).isSome || (step.meant? scenario.app).any fun direct =>
    (scenario.resolved? now direct).map CookieSession.id == some session ||
      direct.sessionId? == some session

/-- The same is at hand on both sides, and a session has the same of the application. -/
structure Paired (session : String) (left right : Scenario) : Prop where
  agrees : left.app.Agrees session right.app
  exact : left.app.Exact
  also : right.app.Exact
  ids : left.app.ids = right.app.ids
  held : left.held = right.held
  listeners : left.listeners = right.listeners

variable {session : String} {left right : Scenario}

theorem tabPlace?_cases (step : Step) : (∃ number limit, step = .poll number limit) ∨
    ∀ scenario : Scenario, scenario.tabPlace? step = step.target?.bind scenario.place? := by
  cases step with
  | poll number limit => exact .inl ⟨number, limit, rfl⟩
  | _ => exact .inr fun _ => rfl

theorem meant?_same {left right : App} (pages : left.pages = right.pages)
    (config : left.config = right.config) (step : Step) : step.meant? left = step.meant? right := by
  cases step with
  | request made =>
    simp only [Step.meant?, Http.asked?, Http.endpoint?, Http.routes, pages, config]
  | _ => rfl

theorem Paired.meant? (paired : left.Paired session right) (step : Step) :
    step.meant? left.app = step.meant? right.app :=
  meant?_same paired.agrees.pages paired.agrees.config step

theorem Paired.ownPlace? (paired : left.Paired session right) (target : Target) :
    left.ownPlace? session target = right.ownPlace? session target := by
  cases target with
  | registered id => exact paired.agrees.lead paired.exact paired.also id
  | held number =>
    have own := funext paired.agrees.own
    simp only [Scenario.ownPlace?, Scenario.place?, paired.held, own]

theorem Paired.tab? (paired : left.Paired session right) (step : Step) :
    left.tab? session step = right.tab? session step := by
  rw [Scenario.tab?, Scenario.tab?, paired.meant?]
  cases step.meant? right.app with
  | none => rfl
  | some direct =>
    have targeted (target : Option Target) :
        ((target.bind left.place?).filter fun place => (left.app.own? session place).isSome) =
          (target.bind right.place?).filter fun place => (right.app.own? session place).isSome := by
      cases target with
      | none => rfl
      | some target => exact paired.ownPlace? target
    rcases tabPlace?_cases direct with ⟨number, limit, rfl⟩ | placed
    · have own := funext paired.agrees.own
      simp only [Option.bind_some, tabPlace?, paired.listeners, own]
    · rw [Option.bind_some, Option.bind_some, placed left, placed right]
      exact targeted direct.target?

section
variable (paired : left.Paired session right)
include paired

theorem Paired.same_step {now : Instant} {step : Step} (changes : List Change)
    (one : left.changes now step = changes) (other : right.changes now step = changes)
    (idle : changes.all (!·.works) = true) :
    (left.step now step).scenario.app.Agrees session (right.step now step).scenario.app := by
  rw [step_changes, step_changes, one, other]
  exact paired.agrees.sameAll paired.exact paired.also now idle

theorem Paired.find? {target : Target} {place : Nat}
    (mine : left.ownPlace? session target = some place) :
    ∃ connection, left.app.own? session place = some connection ∧
      left.place? target = some place ∧ right.place? target = some place ∧
      left.find? target = some (place, connection) ∧
      right.find? target = some (place, connection) := by
  have also := mine
  rw [paired.ownPlace?] at also
  obtain ⟨placed, there⟩ := Option.filter_eq_some_iff.mp mine
  obtain ⟨connection, own⟩ := Option.isSome_iff_exists.mp there
  have here := (App.own?_eq_some_iff.mp own).1
  have right_here := (App.own?_eq_some_iff.mp (paired.agrees.own place ▸ own)).1
  have right_placed := (Option.filter_eq_some_iff.mp also).1
  exact ⟨connection, own, placed, right_placed, by simp [Scenario.find?, placed, here],
    by simp [Scenario.find?, right_placed, right_here]⟩

theorem Paired.listenAnswer {first second : App × Option PushChannel}
    (opened : first.1.Agrees session second.1) (same : first.2 = second.2) :
    (left.listenAnswer first).Agrees session (right.listenAnswer second) := by
  unfold Scenario.listenAnswer
  rw [← same]
  cases first.2 with
  | none => exact ⟨opened, rfl, rfl⟩
  | some channel =>
    refine ⟨opened, ?_, rfl⟩
    simp only [listen, withApp, answered, paired.listeners]

omit paired in
theorem lead?_of_request {scenario : Scenario} {action payload : String} {place : Nat}
    (mine : scenario.tab? session (.runRequest action payload) = some place) :
    ∃ request, ClientRequest.parse payload = .ok request ∧
      scenario.app.lead? session request.connection = some place := by
  cases parsed : ClientRequest.parse payload with
  | error refused =>
    simp [tab?, Step.meant?, tabPlace?, Step.target?, Step.tabId?, parsed, Except.toOption] at mine
  | ok request =>
    refine ⟨request, rfl, ?_⟩
    simpa [tab?, Step.meant?, tabPlace?, Step.target?, Step.tabId?, parsed, Except.toOption,
      App.lead?, place?] using mine

/-- A step in a tab of the session comes to the same. -/
theorem Paired.own_step (now : Instant) {direct : Step}
    (plainly : ∀ made, direct ≠ .request made) {place : Nat}
    (mine : left.tab? session direct = some place) :
    (left.step now direct).Agrees session (right.step now direct) := by
  obtain ⟨agrees, exact, also, ids, held, listeners⟩ := id paired
  cases direct with
  | request made => exact absurd rfl (plainly made)
  | runAction id action signals =>
    obtain ⟨apps, told⟩ := agrees.runAction exact also mine now action signals
    simp only [Scenario.step]
    exact ⟨apps, congrArg (fun told => Answer.outcome told.2) told, congrArg Prod.fst told⟩
  | runRequest action payload =>
    obtain ⟨request, parsed, led⟩ := lead?_of_request mine
    obtain ⟨apps, told⟩ := agrees.runRequest exact also parsed led now action
    simp only [Scenario.step, App.runRequest, parsed] at apps told ⊢
    obtain ⟨notes, outcome⟩ := Prod.mk.inj told
    exact ⟨apps, congrArg Answer.outcome (Except.ok.inj outcome), notes⟩
  | subscribe id =>
    obtain ⟨apps, told⟩ := agrees.subscribe exact also mine now
    exact paired.listenAnswer apps told
  | refresh id =>
    obtain ⟨connection, -, -, ⟨placed, here⟩, there, also_here⟩ := agrees.led exact also mine
    have found {app : App} (placed : app.place? id = some place)
        (here : app.connections[place]? = some connection) : (app.refresh now id).2 = true := by
      cases carried : connection.session <;>
        simp [App.refresh, placed, App.lookup_placed placed here, carried]
    refine ⟨agrees.refresh exact also mine now, ?_, rfl⟩
    exact congrArg Answer.refreshed ((found placed here).trans (found there also_here).symm)
  | close id =>
    obtain ⟨connection, -, -, ⟨placed, -⟩, there, -⟩ := agrees.led exact also mine
    refine ⟨agrees.same exact also now (.close id) rfl, ?_, rfl⟩
    simp [Scenario.step, App.close, placed, there, answered]
  | subscribeTo target =>
    obtain ⟨connection, own, placed, right_placed, -, -⟩ := paired.find? mine
    have here := (App.own?_eq_some_iff.mp own).1
    have there := (App.own?_eq_some_iff.mp (agrees.own place ▸ own)).1
    simp only [Scenario.step, placed, right_placed]
    refine paired.listenAnswer (agrees.same exact also now (.subscribe place) rfl) ?_
    simp [App.subscribeAt, here, there]
  | pop target =>
    obtain ⟨connection, -, -, -, found, right_found⟩ := paired.find? mine
    have popped {scenario : Scenario} (found : scenario.find? target = some (place, connection)) :
        scenario.changes now (.pop target) = [.pop place] := by simp [changes, found]
    refine ⟨paired.same_step _ (popped found) (popped right_found) rfl, ?_, ?_⟩ <;>
      simp [Scenario.step, onConnection, found, right_found, answered]
  | drain target =>
    obtain ⟨connection, -, -, -, found, right_found⟩ := paired.find? mine
    have drained {scenario : Scenario} (found : scenario.find? target = some (place, connection)) :
        scenario.changes now (.drain target) = [.drain place] := by simp [changes, found]
    refine ⟨paired.same_step _ (drained found) (drained right_found) rfl, ?_, ?_⟩ <;>
      simp [Scenario.step, onConnection, found, right_found, answered]
  | inspect target =>
    obtain ⟨connection, -, -, -, found, right_found⟩ := paired.find? mine
    simp only [Scenario.step, found, right_found]
    exact ⟨agrees, rfl, rfl⟩
  | hold target =>
    obtain ⟨connection, -, placed, right_placed, -, -⟩ := paired.find? mine
    simp only [Scenario.step, Scenario.hold, placed, right_placed, held]
    exact ⟨agrees, rfl, rfl⟩
  | direct target mode action body =>
    obtain ⟨connection, own, -, -, found, right_found⟩ := paired.find? mine
    have carries := (App.own?_eq_some_iff.mp own).2
    obtain ⟨same, shared, replies⟩ :=
      Connection.direct_agrees carries agrees.shared now mode action body
    simp only [Scenario.step, Scenario.direct, found, right_found, same, replies]
    refine ⟨agrees.resumed own _ ?_ shared, rfl, rfl⟩
    rw [← same]
    exact carries
  | poll number limit =>
    obtain ⟨held_out, there⟩ := Option.filter_eq_some_iff.mp mine
    obtain ⟨listener, listening, rfl⟩ := Option.map_eq_some_iff.mp held_out
    obtain ⟨connection, own⟩ := Option.isSome_iff_exists.mp there
    have here := (App.own?_eq_some_iff.mp own).1
    have right_here := (App.own?_eq_some_iff.mp (agrees.own listener.channel.place ▸ own)).1
    simp only [Scenario.step, Scenario.poll, ← listeners, listening, App.readyLimit, here,
      right_here]
    split
    · exact ⟨agrees, rfl, rfl⟩
    · split
      · exact ⟨agrees, rfl, rfl⟩
      · obtain ⟨apps, told⟩ := agrees.take exact also own
          (limit.getD (connection.queue.pending.length + 1))
        refine ⟨apps, ?_, rfl⟩
        exact congrArg (fun taken : List Patch × Pause =>
          Answer.polled (taken.1.map (deliver listener.framed)) taken.2) told
  | _ => cases mine

end

/-- The values of the application change only in a tab of the session, if not from outside. -/
def Reserved (scenario : Scenario) (session : String) (now : Instant) (step : Step) : Prop :=
  (scenario.tab? session step).isSome = true ∨ (∃ key value, step = .setApplication key value) ∨
    (scenario.step now step).scenario.app.shared.application = scenario.app.shared.application

section
variable {scenario : Scenario}

theorem own?_of_place? {target : Target} {place : Nat}
    (foreign : scenario.ownPlace? session target = none)
    (placed : scenario.place? target = some place) : scenario.app.own? session place = none := by
  cases own : scenario.app.own? session place with
  | none => rfl
  | some connection => simp [ownPlace?, placed, own] at foreign

theorem place?_of_find? {target : Target} {place : Nat} {connection : Connection}
    (found : scenario.find? target = some (place, connection)) :
    scenario.place? target = some place := by
  obtain ⟨there, placed, held⟩ := Option.bind_eq_some_iff.mp found
  obtain ⟨other, -, same⟩ := Option.map_eq_some_iff.mp held
  rw [placed, (Prod.mk.inj same).1]

/-- A step in another tab leaves the session as it is. -/
theorem alike_aside (now : Instant) {direct : Step} (plainly : ∀ made, direct ≠ .request made)
    (foreign : scenario.tab? session direct = none)
    (about : direct.target?.isSome = true ∨ direct.dispatches = true ∨
      ∃ number limit, direct = .poll number limit) :
    scenario.app.Alike session (scenario.step now direct).scenario.app := by
  rw [step_changes]
  have found {target : Target} {changes : List Change} (change : Nat → Connection → Change)
      (foreign : scenario.ownPlace? session target = none)
      (elsewhere : ∀ place connection, (change place connection).Elsewhere session place)
      (same : changes = (scenario.find? target).toList.map fun found => change found.1 found.2) :
      scenario.app.Alike session (scenario.app.applyAll now changes) := by
    rw [same]
    cases found : scenario.find? target with
    | none => exact scenario.app.spares_nil.alike now
    | some there =>
      obtain ⟨place, connection⟩ := there
      have other := own?_of_place? foreign (place?_of_find? found)
      exact (App.spares_single other (elsewhere place connection)).alike now
  cases direct with
  | request made => exact absurd rfl (plainly made)
  | runAction id action signals => exact (App.spares_action foreign now action signals).alike now
  | runRequest action payload =>
    refine App.Spares.alike ?_ now
    rw [changes, App.requestChanges]
    cases parsed : ClientRequest.parse payload with
    | error refused => exact scenario.app.spares_nil
    | ok request =>
      refine App.spares_action ?_ now action request.signals
      simpa [tab?, Step.meant?, tabPlace?, Step.target?, Step.tabId?, parsed, Except.toOption,
        App.lead?, place?] using foreign
  | subscribe id => exact (App.spares_subscribe foreign).alike now
  | refresh id => exact (App.spares_refresh foreign).alike now
  | close id => exact App.alike_close foreign now
  | subscribeTo target =>
    rw [changes]
    cases placed : scenario.place? target with
    | none => exact scenario.app.spares_nil.alike now
    | some place =>
      have other := own?_of_place? foreign placed
      have elsewhere : (Change.subscribe place).Elsewhere session place := rfl
      exact (App.spares_single other elsewhere).alike now
  | pop target => exact found (fun place _ => .pop place) foreign (fun _ _ => rfl) rfl
  | drain target => exact found (fun place _ => .drain place) foreign (fun _ _ => rfl) rfl
  | direct target mode action body =>
    refine found (fun place connection => .work place mode
      ((connection.scene scenario.app.shared mode).directDeeds connection.page.knowsSignal
        (Page.invocation connection.page action now) body)) foreign (fun _ _ => rfl) ?_
    rw [changes, directChanges]
    cases scenario.find? target <;> rfl
  | poll number limit =>
    rw [changes, pollChanges]
    cases listening : scenario.listeners[number]? with
    | none => exact scenario.app.spares_nil.alike now
    | some listener =>
      have other : scenario.app.own? session listener.channel.place = none := by
        cases own : scenario.app.own? session listener.channel.place with
        | none => rfl
        | some connection =>
          simp [tab?, Step.meant?, tabPlace?, listening, own] at foreign
      dsimp only
      split
      · exact scenario.app.spares_nil.alike now
      · exact (App.spares_take other _).alike now
  | inspect target => exact scenario.app.spares_nil.alike now
  | hold target => exact scenario.app.spares_nil.alike now
  | _ =>
    rcases about with named | runs | ⟨number, limit, polls⟩
    · cases named
    · cases runs
    · cases polls

end

section
variable (paired : left.Paired session right)
include paired

/-- Any step leaves a session with the same on both sides. -/
theorem Paired.direct_step {now : Instant} {direct : Step}
    (plainly : ∀ made, direct ≠ .request made)
    (fresh : IdSource.sessionId left.app.ids.sessions ≠ session)
    (reserved : left.Reserved session now direct) (also : right.Reserved session now direct)
    (waits : direct = .runSweeper (some 0) → ∃ id place, left.app.lead? session id = some place) :
    (left.step now direct).scenario.app.Agrees session (right.step now direct).scenario.app := by
  cases mine : left.tab? session direct with
  | some place => exact (paired.own_step now plainly mine).app
  | none =>
    have foreign := mine
    rw [paired.tab?] at foreign
    have kept (outside : ¬ ∃ key value, direct = .setApplication key value)
        (alike : (left.step now direct).scenario.app.Alike session
          (right.step now direct).scenario.app) :
        (left.step now direct).scenario.app.Agrees session
          (right.step now direct).scenario.app := by
      have first := (reserved.resolve_left (by simp [mine])).resolve_left outside
      have second := (also.resolve_left (by simp [foreign])).resolve_left outside
      exact ⟨alike, first.trans (paired.agrees.application.trans second.symm)⟩
    have aside (about : direct.target?.isSome = true ∨ direct.dispatches = true ∨
        ∃ number limit, direct = .poll number limit) :=
      (alike_aside now plainly mine about).symm.trans
        (paired.agrees.toAlike.trans (alike_aside now plainly foreign about))
    have sessions := paired.agrees.sessionFor_cases paired.ids fresh now
    cases direct with
    | request made => exact absurd rfl (plainly made)
    | render route cookie =>
      have loaded (scenario : Scenario) :
          (scenario.step now (.render route cookie)).scenario.app =
            (scenario.app.loadPage now route cookie).1 := by
        rw [step_changes, App.loadPage_changes]
        rfl
      rcases sessions cookie with ⟨same, own⟩ | ⟨first, second⟩
      · rw [loaded, loaded]
        exact (paired.agrees.loadPage paired.exact paired.also paired.ids same own route).1
      · refine kept (by simp) ?_
        rw [loaded, loaded]
        exact paired.agrees.toAlike.loadPage_other paired.exact paired.also paired.ids first second
          route
    | resolve cookie =>
      rcases sessions cookie with ⟨same, -⟩ | ⟨first, second⟩
      · exact paired.agrees.sessionFor paired.exact paired.also paired.ids same
      · refine kept (by simp) ?_
        rw [step_changes, step_changes]
        exact ((App.spares_session first).alike now).symm.trans
          (paired.agrees.toAlike.trans ((App.spares_session second).alike now))
    | runSweeper ttl =>
      by_cases due : ttl = some 0
      · subst due
        obtain ⟨id, place, led⟩ := waits rfl
        have occupied {app : App} (led : app.lead? session id = some place) :
            app.registered.isEmpty = false := by
          rw [KeyMap.isEmpty_eq_false_iff]
          exact ⟨id, Option.isSome_of_eq_some (Option.filter_eq_some_iff.mp led).1⟩
        have also_led := (paired.agrees.lead paired.exact paired.also id).symm.trans led
        refine paired.same_step [.sweep now 0] ?_ ?_ rfl
        · simp [changes, occupied led]
        · simp [changes, occupied also_led]
      · refine paired.same_step [] ?_ ?_ rfl <;> simp [changes, due]
    | create id carried page => exact paired.same_step _ rfl rfl rfl
    | dropChannel number => exact paired.same_step _ rfl rfl rfl
    | sweep instant ttl => exact paired.same_step _ rfl rfl rfl
    | sweepNow ttl => exact paired.same_step _ rfl rfl rfl
    | stats => exact paired.same_step _ rfl rfl rfl
    | session id key => exact paired.same_step _ rfl rfl rfl
    | setSession id key value => exact paired.same_step _ rfl rfl rfl
    | refreshSession id => exact paired.same_step _ rfl rfl rfl
    | refuseSession id => exact paired.same_step _ rfl rfl rfl
    | application key => exact paired.same_step _ rfl rfl rfl
    | setApplication key value => exact paired.same_step _ rfl rfl rfl
    | poll number limit => exact kept (by simp) (aside (.inr (.inr ⟨number, limit, rfl⟩)))
    | runRequest action payload => exact kept (by simp) (aside (.inr (.inl rfl)))
    | _ => exact kept (by simp) (aside (.inl rfl))

end
theorem tab?_meant {scenario : Scenario} {step direct : Step}
    (meant : step.meant? scenario.app = some direct) (session : String) :
    scenario.tab? session step = scenario.tab? session direct := by
  have itself : direct.meant? scenario.app = some direct := by
    cases direct with
    | request made => exact absurd rfl (Step.meant?_direct meant made)
    | _ => rfl
  rw [tab?, tab?, meant, itself]

/-- A request does to the application what the step does that it asks for. -/
theorem step_meant {scenario : Scenario} {now : Instant} {step direct : Step}
    (meant : step.meant? scenario.app = some direct) :
    (scenario.step now step).scenario.app = (scenario.step now direct).scenario.app := by
  rw [step_changes, step_changes, changes_meant, meant]
  rfl

/-- What it is about a step that concerns the session. -/
theorem concerns_cases {scenario : Scenario} {now : Instant} {step : Step}
    (concerned : scenario.concerns session now step = true) :
    ∃ direct, step.meant? scenario.app = some direct ∧
      ((∃ place, scenario.tab? session direct = some place) ∨
        (∃ resolved, scenario.resolved? now direct = some resolved ∧ resolved.id = session) ∨
        direct.sessionId? = some session) := by
  rw [concerns, Bool.or_eq_true] at concerned
  cases meant : step.meant? scenario.app with
  | none => simp [tab?, meant] at concerned
  | some direct =>
    refine ⟨direct, rfl, ?_⟩
    simpa [tab?_meant meant, meant, Option.isSome_iff_exists] using concerned

section
variable (paired : left.Paired session right)
  (fresh : IdSource.sessionId left.app.ids.sessions ≠ session)
include paired fresh

theorem Paired.page {now : Instant} {route : String} {cookie : Option String}
    {resolved : CookieSession}
    (found : left.resolved? now (.render route cookie) = some resolved)
    (own : resolved.id = session) :
    (left.app.loadPage now route cookie).2 = (right.app.loadPage now route cookie).2 := by
  obtain ⟨page, -, rfl⟩ := Option.map_eq_some_iff.mp found
  rcases paired.agrees.sessionFor_cases paired.ids fresh now cookie with ⟨same, -⟩ | ⟨other, -⟩
  · exact (paired.agrees.loadPage paired.exact paired.also paired.ids same own route).2
  · exact absurd own other

/-- A step that concerns the session is answered alike. -/
theorem Paired.direct_told {now : Instant} {direct : Step}
    (plainly : ∀ made, direct ≠ .request made)
    (cause : (∃ place, left.tab? session direct = some place) ∨
      (∃ resolved, left.resolved? now direct = some resolved ∧ resolved.id = session) ∨
      direct.sessionId? = some session) :
    (left.step now direct).answer = (right.step now direct).answer ∧
      (left.step now direct).notes = (right.step now direct).notes := by
  rcases cause with ⟨place, mine⟩ | ⟨resolved, found, own⟩ | named
  · have stepped := paired.own_step now plainly mine
    exact ⟨stepped.answer, stepped.notes⟩
  · cases direct with
    | render route cookie =>
      have same := paired.page fresh found own
      simp only [Scenario.step]
      generalize left.app.loadPage now route cookie = first at same ⊢
      generalize right.app.loadPage now route cookie = second at same ⊢
      obtain ⟨after, result⟩ := first
      obtain ⟨after', result'⟩ := second
      obtain rfl : result = result' := same
      cases result <;> exact ⟨rfl, rfl⟩
    | resolve cookie =>
      obtain rfl := Option.some.inj found
      rcases paired.agrees.sessionFor_cases paired.ids fresh now cookie with ⟨same, -⟩ | ⟨other, -⟩
      · exact ⟨congrArg Answer.resolved same, rfl⟩
      · exact absurd own other
    | _ => cases found
  · cases direct with
    | session id key =>
      obtain rfl := Option.some.inj named
      have agrees := paired.agrees.sessions
      simp only [Scenario.step, agrees.contains, agrees.isRefused, funext agrees.get?]
      exact ⟨rfl, rfl⟩
    | setSession id key value =>
      obtain rfl := Option.some.inj named
      have accepts := Sessions.set_accepts paired.agrees.sessions now key value
      exact ⟨congrArg Answer.stored accepts, rfl⟩
    | _ => cases named

theorem Paired.told {now : Instant} {step : Step}
    (concerned : left.concerns session now step = true) :
    (left.step now step).answer = (right.step now step).answer ∧
      (left.step now step).notes = (right.step now step).notes := by
  obtain ⟨direct, meant, cause⟩ := concerns_cases concerned
  cases step with
  | request made =>
    have same : (Http.handle left.app now made).2 = (Http.handle right.app now made).2 := by
      refine Http.handle_same paired.agrees.pages paired.agrees.config
        (fun route cookie asked => ?_) (fun id asked => ?_) fun action payload asked => ?_
      · obtain rfl := Option.some.inj (meant.symm.trans asked)
        rcases cause with ⟨place, mine⟩ | ⟨resolved, found, own⟩ | named
        · cases mine
        · exact paired.page fresh found own
        · cases named
      · obtain rfl := Option.some.inj (meant.symm.trans asked)
        rcases cause with ⟨place, mine⟩ | ⟨resolved, found, own⟩ | named
        · exact (paired.agrees.subscribe paired.exact paired.also mine now).2
        · cases found
        · cases named
      · obtain rfl := Option.some.inj (meant.symm.trans asked)
        rcases cause with ⟨place, mine⟩ | ⟨resolved, found, own⟩ | named
        · obtain ⟨request, parsed, led⟩ := lead?_of_request mine
          exact (paired.agrees.runRequest paired.exact paired.also parsed led now action).2
        · cases found
        · cases named
    simp only [Scenario.step, Scenario.serve]
    generalize Http.handle left.app now made = first at same ⊢
    generalize Http.handle right.app now made = second at same ⊢
    obtain ⟨after, notes, response⟩ := first
    obtain ⟨after', notes', response'⟩ := second
    obtain ⟨rfl, rfl⟩ : notes = notes' ∧ response = response' := Prod.mk.inj same
    cases response.body with
    | text shown => exact ⟨rfl, rfl⟩
    | events channel => simp [listen, withApp, paired.listeners]
  | _ =>
    have plainly := Step.meant?_direct meant
    obtain rfl := Option.some.inj meant
    exact paired.direct_told fresh plainly cause

theorem Paired.concerns (now : Instant) (step : Step) :
    left.concerns session now step = right.concerns session now step := by
  rw [Scenario.concerns, Scenario.concerns, paired.tab?, paired.meant?]
  refine congrArg _ (congrArg (fun asks => (step.meant? right.app).any asks) ?_)
  funext direct
  refine congrArg (· || _) ?_
  have resolved (cookie : Option String) :
      ((left.app.sessionFor now cookie).2.id == session) =
        ((right.app.sessionFor now cookie).2.id == session) := by
    rcases paired.agrees.sessionFor_cases paired.ids fresh now cookie with
      ⟨same, -⟩ | ⟨first, second⟩
    · rw [same]
    · rw [beq_false_of_ne first, beq_false_of_ne second]
  cases direct with
  | render route cookie =>
    simp only [resolved?, paired.agrees.pages]
    cases right.app.pages.get? route with
    | none => rfl
    | some page => exact resolved cookie
  | resolve cookie => exact resolved cookie
  | _ => rfl

theorem Paired.step {now : Instant} {step : Step}
    (reserved : left.Reserved session now step) (also : right.Reserved session now step)
    (waits : step = .runSweeper (some 0) → ∃ id place, left.app.lead? session id = some place) :
    (left.step now step).scenario.app.Agrees session (right.step now step).scenario.app := by
  have holds {scenario : Scenario} {direct : Step} (meant : step.meant? scenario.app = some direct)
      (reserved : scenario.Reserved session now step) : scenario.Reserved session now direct := by
    rcases reserved with mine | ⟨key, value, rfl⟩ | kept
    · exact .inl (tab?_meant meant session ▸ mine)
    · exact .inr (.inl ⟨key, value, (Option.some.inj meant).symm⟩)
    · exact .inr (.inr (step_meant meant ▸ kept))
  have same := paired.meant? step
  cases meant : step.meant? left.app with
  | none =>
    rw [meant] at same
    have still {scenario : Scenario} (meant : step.meant? scenario.app = none) :
        (scenario.step now step).scenario.app = scenario.app := by
      rw [step_changes, changes_meant, meant]
      rfl
    rw [still meant, still same.symm]
    exact paired.agrees
  | some direct =>
    rw [meant] at same
    rw [step_meant meant, step_meant same.symm]
    refine paired.direct_step (Step.meant?_direct meant) fresh (holds meant reserved)
      (holds same.symm also) ?_
    rintro rfl
    cases step with
    | request made =>
      obtain ⟨id, asks⟩ | ⟨route, cookie, asks⟩ | ⟨id, asks⟩ | ⟨action, payload, asks⟩ :=
        Http.asked?_cases meant <;> cases asks
    | _ => exact waits (Option.some.inj meant)

end

end Scenario
end LiveTabs
