import LiveTabs.Proofs.Channels
import LiveTabs.Proofs.Occasions
import LiveTabs.Proofs.ScopedStore
/-!
The registry holds just the open connections. What takes an id out of it shuts the connection down
that had the id, and nothing else shuts one down; and whatever shuts one down leaves every other
connection as it is.
-/
namespace LiveTabs

/-- Shuts no connection down. -/
def Change.sparing : Change → Bool
  | .connect _ _ _ => false
  | .close _ => false
  | .sweep _ _ => false
  | _ => true

/-- Does nothing to a connection but shut it down. -/
def Change.clerical : Change → Bool
  | .touch _ => false
  | .work _ _ _ => false
  | .subscribe _ => false
  | .poll _ => false
  | .pop _ => false
  | .drain _ => false
  | _ => true

namespace App

/-- The connection that a change creates, behind all others. -/
def created (now : Instant) (app : App) : Change → List Connection
  | .connect id session page =>
    (Connection.fresh? now id session page app.config.patchQueueCapacity).toList
  | _ => []

/-- Where the ids lead after a change. -/
def registeredAfter (now : Instant) (app : App) : Change → KeyMap Nat
  | .connect id session page =>
    if (app.connect now id session page).isSome then
      app.registered.insert id app.connections.length
    else app.registered
  | .close id => app.registered.erase id
  | .sweep instant ttl => app.registered.filter fun _ place => !app.isExpired instant ttl place
  | _ => app.registered

theorem apply_registered (now : Instant) (app : App) (change : Change) :
    (app.apply now change).registered = app.registeredAfter now change := by
  cases change with
  | connect id session page =>
    cases fresh : Connection.fresh? now id session page app.config.patchQueueCapacity with
    | none => simp [apply, registeredAfter, connect, fresh]
    | some connection =>
      obtain ⟨replaced, -, registered⟩ := app.register_cases connection
      have named : connection.id = id := by rw [Connection.fresh?_eq fresh]
      simp [apply, registeredAfter, connect, fresh, registered, named]
  | work place mode deeds =>
    cases found : app.connections[place]? <;>
      simp [apply, registeredAfter, work, found, setConnection]
  | subscribe place =>
    rw [apply, subscribeAt_eq_modify]
    rfl
  | poll channel =>
    rw [apply, poll_eq_modify]
    rfl
  | close id =>
    obtain ⟨absent, closed⟩ | ⟨place, -, closed⟩ := app.close_cases id
    · rw [apply, closed, registeredAfter]
      apply KeyMap.ext_get?
      intro other
      by_cases same : other = id
      · subst same
        rw [KeyMap.get?_erase, if_pos rfl]
        exact absent
      · simp [same]
    · rw [apply, closed]
      rfl
  | _ => rfl

theorem retired_length (app : App) (gone : List (String × Nat)) :
    (gone.foldl (fun app entry => app.modify entry.2 Connection.retire) app).connections.length =
      app.connections.length := by
  apply retired_induction (motive := fun after =>
    after.connections.length = app.connections.length)
  · intro after place same
    simpa [modify] using same
  · rfl

theorem apply_created (now : Instant) (app : App) (change : Change) :
    (app.apply now change).connections.drop app.connections.length = app.created now change := by
  have none {after : App} (same : after.connections.length = app.connections.length) :
      after.connections.drop app.connections.length = [] :=
    List.drop_eq_nil_of_le (Nat.le_of_eq same)
  cases change with
  | connect id session page =>
    cases fresh : Connection.fresh? now id session page app.config.patchQueueCapacity with
    | none => simp [apply, created, connect, fresh]
    | some connection =>
      obtain ⟨replaced, rfl | ⟨place, -, rfl⟩, registered⟩ := app.register_cases connection <;>
        simp [apply, created, connect, fresh, registered, modify]
  | work place mode deeds =>
    refine none ?_
    cases found : app.connections[place]? <;> simp [apply, work, found, setConnection]
  | subscribe place =>
    rw [apply, subscribeAt_eq_modify]
    exact none (by simp [modify])
  | poll channel =>
    rw [apply, poll_eq_modify]
    exact none (by simp [modify])
  | close id =>
    refine none ?_
    obtain ⟨-, closed⟩ | ⟨place, -, closed⟩ := app.close_cases id <;> simp [apply, closed, modify]
  | sweep instant ttl => exact none (app.retired_length _)
  | touch place => exact none (by simp [apply, modify])
  | pop place => exact none (by simp [apply, modify])
  | drain place => exact none (by simp [apply, modify])
  | _ => exact none rfl

/-- Whoever stands at a place after a change and did not before was created by it. -/
theorem created_of_new {app : App} {now : Instant} {change : Change} {place : Nat}
    {connection : Connection} (before : app.connections[place]? = none)
    (after : (app.apply now change).connections[place]? = some connection) :
    ∃ id session page, change = .connect id session page ∧ place = app.connections.length ∧
      Connection.fresh? now id session page app.config.patchQueueCapacity = some connection := by
  have beyond := List.getElem?_eq_none_iff.mp before
  have listed : (app.created now change)[place - app.connections.length]? = some connection := by
    rw [← apply_created, List.getElem?_drop, Nat.add_sub_cancel' beyond]
    exact after
  cases change with
  | connect id session page =>
    cases fresh : Connection.fresh? now id session page app.config.patchQueueCapacity with
    | none => simp [created, fresh] at listed
    | some opened =>
      rw [created, fresh, Option.toList_some, List.getElem?_singleton] at listed
      obtain ⟨first, same⟩ := Option.ite_none_right_eq_some.mp listed
      exact ⟨id, session, page, rfl, by omega, fresh.trans same⟩
  | _ => cases listed

/-- A change refreshes the connection at a place, or shuts it down, or does something in it. -/
theorem passages_cases {app : App} {place : Nat} {now : Instant} {change : Change}
    {passage : Passage} (member : passage ∈ app.passages place now change) :
    (change = .touch place ∧ passage = .move (.refresh now)) ∨
      (change.sparing = false ∧ passage = .move .retire) ∨
      change.clerical = false ∧ passage ≠ .move .retire ∧
        ∀ instant, passage ≠ .move (.refresh instant) := by
  have one {found : Prop} [Decidable found] {only : Passage}
      (member : passage ∈ if found then [only] else []) : found ∧ passage = only := by
    obtain ⟨holds, listed⟩ := List.mem_ite_nil_right.mp member
    exact ⟨holds, List.mem_singleton.mp listed⟩
  cases change with
  | touch other =>
    obtain ⟨rfl, refreshes⟩ := one member
    exact .inl ⟨rfl, refreshes⟩
  | connect id session page => exact .inr (.inl ⟨rfl, (one member).2⟩)
  | close id => exact .inr (.inl ⟨rfl, (one member).2⟩)
  | sweep instant ttl =>
    obtain ⟨entry, -, retires⟩ := List.mem_map.mp member
    exact .inr (.inl ⟨rfl, retires.symm⟩)
  | work other mode deeds => exact .inr (.inr ⟨rfl, by simp [(one member).2]⟩)
  | subscribe other => exact .inr (.inr ⟨rfl, by simp [(one member).2]⟩)
  | poll channel => exact .inr (.inr ⟨rfl, by simp [(one member).2]⟩)
  | pop other => exact .inr (.inr ⟨rfl, by simp [(one member).2]⟩)
  | drain other => exact .inr (.inr ⟨rfl, by simp [(one member).2]⟩)
  | _ => cases member

theorem spared {change : Change} (sparing : change.sparing = true) (app : App) (place : Nat)
    (now : Instant) : .move .retire ∉ app.passages place now change := by
  intro member
  obtain ⟨-, same⟩ | ⟨harsh, -⟩ | ⟨-, apart, -⟩ := passages_cases member
  · cases same
  · rw [sparing] at harsh
    cases harsh
  · exact apart rfl

theorem registeredAfter_spared {change : Change} (sparing : change.sparing = true) (now : Instant)
    (app : App) : app.registeredAfter now change = app.registered := by
  cases change with
  | connect id session page => cases sparing
  | close id => cases sparing
  | sweep instant ttl => cases sparing
  | _ => rfl

theorem retires_only {change : Change} (clerical : change.clerical = true) {app : App} {place : Nat}
    {now : Instant} {passage : Passage} (member : passage ∈ app.passages place now change) :
    passage = .move .retire := by
  obtain ⟨rfl, -⟩ | ⟨-, retires⟩ | ⟨inside, -⟩ := passages_cases member
  · cases clerical
  · exact retires
  · rw [clerical] at inside
    cases inside

/-- The registry and the connections agree: a connection is open just when its id leads to it. -/
structure Exact (app : App) : Prop where
  open_iff : ∀ (place : Nat) (connection : Connection),
    app.connections[place]? = some connection →
      (connection.isClosed = false ↔ app.place? connection.id = some place)
  standing : ∀ (id : String) (place : Nat), app.place? id = some place →
    ∃ connection, app.connections[place]? = some connection ∧ connection.id = id

/-- An id goes on leading to its connection unless the change shuts that down. -/
theorem place?_apply {app : App} (exact : app.Exact) {place : Nat} {connection : Connection}
    (here : app.connections[place]? = some connection) (now : Instant) (change : Change) :
    (app.apply now change).place? connection.id = some place ↔
      app.place? connection.id = some place ∧ .move .retire ∉ app.passages place now change := by
  have inside := (List.getElem?_eq_some_iff.mp here).1
  -- Only its own id leads to a connection.
  have own {id : String} (placed : app.place? id = some place) : connection.id = id := by
    obtain ⟨found, there, named⟩ := exact.standing id place placed
    rw [here] at there
    rw [Option.some.inj there, named]
  rw [place?, apply_registered, place?]
  cases change with
  | connect id session page =>
    cases made : (app.connect now id session page).isSome with
    | false => simp [registeredAfter, passages, made]
    | true =>
      by_cases same : connection.id = id
      · subst same
        simp [registeredAfter, passages, made, place?, Nat.ne_of_gt inside]
      · have apart : app.registered.get? id ≠ some place := fun placed => same (own placed)
        simp [registeredAfter, passages, made, place?, same, apart]
  | close id =>
    by_cases same : connection.id = id
    · subst same
      simp +contextual [registeredAfter, passages, place?]
    · have apart : app.registered.get? id ≠ some place := fun placed => same (own placed)
      simp [registeredAfter, passages, place?, same, apart]
  | sweep instant ttl =>
    have listed (entry : String × Nat) : entry ∈ app.registered.entries ↔
        app.registered.get? entry.1 = some entry.2 := (KeyMap.get?_eq_some_iff _ _ _).symm
    rw [registeredAfter, KeyMap.get?_filter, Option.filter_eq_some_iff]
    refine and_congr_right fun placed => ?_
    simp only [passages, KeyMap.filter, List.mem_map, List.mem_filter, listed]
    cases old : app.isExpired instant ttl place with
    | true =>
      exact iff_of_false Bool.false_ne_true
        (not_not_intro ⟨(connection.id, place), ⟨⟨placed, old⟩, beq_self_eq_true place⟩, trivial⟩)
    | false =>
      refine iff_of_true rfl ?_
      rintro ⟨entry, ⟨⟨-, expired⟩, there⟩, -⟩
      rw [eq_of_beq there, old] at expired
      cases expired
  | _ =>
    rw [registeredAfter_spared rfl]
    exact (and_iff_left (spared rfl app place now)).symm

theorem registeredAfter_cases {now : Instant} {app : App} {change : Change} {id : String}
    {place : Nat} (placed : (app.registeredAfter now change).get? id = some place) :
    app.place? id = some place ∨
      ∃ session page opened, change = .connect id session page ∧ place = app.connections.length ∧
        Connection.fresh? now id session page app.config.patchQueueCapacity = some opened := by
  cases change with
  | connect other session page =>
    cases fresh : Connection.fresh? now other session page app.config.patchQueueCapacity with
    | none => exact .inl (by simpa [registeredAfter, connect, fresh, place?] using placed)
    | some opened =>
      by_cases same : id = other
      · subst same
        refine .inr ⟨session, page, opened, rfl, ?_, fresh⟩
        simpa [registeredAfter, connect, fresh, eq_comm] using placed
      · exact .inl (by simpa [registeredAfter, connect, fresh, same, place?] using placed)
  | close other =>
    rw [registeredAfter, KeyMap.get?_erase] at placed
    exact .inl (Option.ite_none_left_eq_some.mp placed).2
  | sweep instant ttl =>
    rw [registeredAfter, KeyMap.get?_filter] at placed
    exact .inl (Option.filter_eq_some_iff.mp placed).1
  | _ => exact .inl placed

theorem Exact.apply {app : App} (exact : app.Exact) (now : Instant) (change : Change) :
    (app.apply now change).Exact := by
  refine ⟨fun place later there => ?_, fun id place placed => ?_⟩
  · cases before : app.connections[place]? with
    | some connection =>
      obtain ⟨found, same, continued⟩ := app.apply_continues now change place connection before
      obtain rfl : found = later := Option.some.inj (same.symm.trans there)
      have undergone := there.symm.trans (apply_passages before now change)
      rw [continued.id, place?_apply exact before, ← exact.open_iff place connection before,
        Option.some.inj undergone, ← Bool.not_eq_true, ← Bool.not_eq_true,
        Connection.undergoAll_isClosed, not_or]
    | none =>
      obtain ⟨id, session, page, rfl, rfl, fresh⟩ := created_of_new before there
      have made : (app.connect now id session page).isSome = true := by simp [connect, fresh]
      rw [Connection.fresh?_eq fresh]
      refine iff_of_true rfl ?_
      rw [place?, apply_registered, registeredAfter, if_pos made, KeyMap.get?_insert, if_pos rfl]
  · rw [place?, apply_registered] at placed
    obtain old | ⟨session, page, opened, rfl, rfl, fresh⟩ := registeredAfter_cases placed
    · obtain ⟨connection, here, named⟩ := exact.standing id place old
      obtain ⟨later, there, continued⟩ := app.apply_continues now change place connection here
      exact ⟨later, there, continued.id.trans named⟩
    · refine ⟨opened, ?_, by rw [Connection.fresh?_eq fresh]⟩
      have behind := congrArg (·[0]?) (app.apply_created now (.connect id session page))
      rw [created, fresh] at behind
      simpa using behind

end App

namespace Change

theorem sparing_of_onTab {changes : List Change} (tabs : changes.all onTab = true) :
    changes.all sparing = true := by
  rw [List.all_eq_true] at tabs ⊢
  intro change member
  cases change <;> first | rfl | exact tabs _ member

theorem Occasion.apart {app : App} {now : Instant} {step : Step} {changes : List Change}
    (occasion : Occasion app now step changes) :
    changes.all sparing = true ∨ changes.all clerical = true := by
  have resolving (cookie : Option String) :
      (app.sessionChanges now cookie).all clerical = true := by
    unfold App.sessionChanges
    dsimp only
    split <;> rfl
  cases occasion with
  | tabs all => exact .inl (sparing_of_onTab all)
  | page route cookie =>
    refine .inr ?_
    unfold App.pageChanges
    cases app.pages.get? route with
    | none => rfl
    | some page =>
      dsimp only
      rw [List.append_assoc, List.all_append, resolving]
      split <;> rfl
  | resolved cookie => exact .inr (resolving cookie)
  | swept instant ttl due => exact .inr rfl
  | alone change single => exact .inr (by cases change <;> first | rfl | exact single)

end Change

namespace Connection

theorem undergoAll_retires {passages : List Passage}
    (only : ∀ passage ∈ passages, passage = .move .retire) (connection : Connection) :
    connection.undergoAll passages = connection ∨
      connection.undergoAll passages = connection.retire := by
  induction passages generalizing connection with
  | nil => exact .inl rfl
  | cons passage rest ih =>
    obtain rfl := only passage List.mem_cons_self
    have later := fun other member => only other (List.mem_cons_of_mem _ member)
    rcases ih later connection.retire with same | same
    · exact .inr same
    · exact .inr same

theorem retire_closed {connection : Connection} (closed : connection.isClosed = true) :
    connection.retire = connection := by
  rw [retire, ← connection.isClosed_iff.mp closed]

theorem poll_closed {connection : Connection} (closed : connection.isClosed = true)
    (generation : Nat) : connection.poll generation = (connection, .ended) := by
  refine poll_past fun current opened => ?_
  rw [connection.isClosed_iff.mp closed] at opened
  cases opened

end Connection

namespace App

theorem lookup_register (app : App) (connection : Connection) :
    (app.register connection).lookup connection.id = some connection := by
  have placed : (app.register connection).place? connection.id = some app.connections.length := by
    obtain ⟨replaced, -, registered⟩ := app.register_cases connection
    rw [registered, place?, KeyMap.get?_insert, if_pos rfl]
  rw [lookup, placed]
  exact app.register_last connection

theorem place?_close (app : App) (id : String) : (app.close id).1.place? id = none := by
  obtain ⟨absent, closed⟩ | ⟨place, -, closed⟩ := app.close_cases id <;> rw [closed]
  · exact absent
  · rw [place?, KeyMap.get?_erase, if_pos rfl]

theorem loadPage_panicked {app : App} {now : Instant} {route named : String}
    {cookie : Option String}
    (panicked : (app.loadPage now route cookie).2 = .error (.viewPanicked named)) :
    ∃ (numbered : App) (connection : Connection), numbered.connections = app.connections ∧
      (app.loadPage now route cookie).1 =
        ((numbered.register connection).close connection.id).1 := by
  have loads := app.loadPage_loads now route cookie
  generalize app.loadPage now route cookie = outcome at loads panicked ⊢
  cases loads with
  | panicked connection => exact ⟨app.numbered now cookie, connection, rfl, rfl⟩
  | unknown | crashed | rendered => cases panicked

theorem applyAll_spared {changes : List Change} (sparing : changes.all Change.sparing = true)
    {app : App} {now : Instant} {place : Nat} (none : app.connections[place]? = none) :
    (app.applyAll now changes).connections[place]? = Option.none := by
  induction changes generalizing app with
  | nil => exact none
  | cons change rest ih =>
    rw [List.all_cons, Bool.and_eq_true] at sparing
    apply ih sparing.2
    cases there : (app.apply now change).connections[place]? with
    | none => rfl
    | some connection =>
      obtain ⟨id, session, page, rfl, -, -⟩ := created_of_new none there
      cases sparing.1

theorem exact_of_built {config : Config} {pages : List Page} {app : App}
    (built : build config pages = .ok app) : app.Exact := by
  obtain ⟨routes, rfl⟩ := build_fresh built
  constructor
  · intro place connection here
    cases here
  · intro id place placed
    cases placed

end App

namespace Scenario

theorem reached_exact {scenario : Scenario} (exact : scenario.app.Exact)
    (steps : List (Instant × Step)) : (scenario.reached steps).app.Exact :=
  reached_induction (motive := App.Exact) (fun now _ change before => before.apply now change)
    scenario steps exact

/-- Over the step the connection at a place is shut down. It was open before, or was not there. -/
def Removes (scenario : Scenario) (place : Nat) (now : Instant) (step : Step) : Prop :=
  (∀ connection, scenario.app.connections[place]? = some connection →
    connection.isClosed = false) ∧ scenario.Shuts place now step

section
variable {scenario : Scenario} {place : Nat} {now : Instant} {step : Step}

theorem mem_step_passages {passage : Passage}
    (member : passage ∈ scenario.passages place [(now, step)]) :
    ∃ before : App, ∃ change ∈ scenario.changes now step,
      passage ∈ before.passages place now change := by
  simp only [passages, along, List.append_nil] at member
  exact App.mem_along member

theorem shuts_iff {connection : Connection}
    (here : scenario.app.connections[place]? = some connection) :
    scenario.Shuts place now step ↔
      connection.isClosed = true ∨ .move .retire ∈ scenario.passages place [(now, step)] := by
  have reached : (scenario.step now step).scenario.app.connections[place]? = _ :=
    reached_passages here [(now, step)]
  rw [← Connection.undergoAll_isClosed]
  constructor
  · rintro ⟨later, there, closed⟩
    rwa [← Option.some.inj (there.symm.trans reached)]
  · exact fun closed => ⟨_, reached, closed⟩

/-- A step that shuts a connection down does nothing else to any connection. -/
theorem clerical_of_removes (removed : scenario.Removes place now step) :
    (scenario.changes now step).all Change.clerical = true := by
  refine (scenario.changes_occasion now step).apart.resolve_left fun sparing => ?_
  obtain ⟨unclosed, shut⟩ := removed
  cases here : scenario.app.connections[place]? with
  | none =>
    obtain ⟨later, there, -⟩ := shut
    rw [step_changes, App.applyAll_spared sparing here] at there
    cases there
  | some connection =>
    rcases (shuts_iff here).mp shut with closed | retired
    · rw [unclosed connection here] at closed
      cases closed
    · obtain ⟨before, change, listed, retires⟩ := mem_step_passages retired
      exact App.spared (List.all_eq_true.mp sparing change listed) before place now retires

theorem step_removes {other : Nat} (removed : scenario.Removes other now step)
    {connection : Connection} (here : scenario.app.connections[place]? = some connection) :
    ∃ later, (scenario.step now step).scenario.app.connections[place]? = some later ∧
      (scenario.Removes place now step → later = connection.retire) ∧
      (¬ scenario.Removes place now step → later = connection) := by
  have clerical := List.all_eq_true.mp (clerical_of_removes removed)
  have only : ∀ passage ∈ scenario.passages place [(now, step)], passage = .move .retire := by
    intro passage member
    obtain ⟨before, change, listed, inside⟩ := mem_step_passages member
    exact App.retires_only (clerical change listed) inside
  have reached : (scenario.step now step).scenario.app.connections[place]? = _ :=
    reached_passages here [(now, step)]
  have shuts (retired : connection.undergoAll (scenario.passages place [(now, step)]) =
      connection.retire) : scenario.Shuts place now step :=
    ⟨_, reached, by rw [retired]; rfl⟩
  refine ⟨_, reached, fun gone => ?_, fun stays => ?_⟩
  · rcases connection.undergoAll_retires only with same | retired
    · obtain ⟨later, there, closed⟩ := gone.2
      rw [← Option.some.inj (reached.symm.trans there), same, gone.1 connection here] at closed
      cases closed
    · exact retired
  · rcases connection.undergoAll_retires only with same | retired
    · exact same
    · cases closed : connection.isClosed with
      | true => rw [retired, Connection.retire_closed closed]
      | false =>
        refine absurd ⟨fun other there => ?_, shuts retired⟩ stays
        rw [← Option.some.inj (here.symm.trans there)]
        exact closed

/-- A closed connection has no push channel that yields anything, then or later. -/
theorem polls_ended {connection : Connection}
    (here : scenario.app.connections[place]? = some connection)
    (closed : connection.isClosed = true) (steps : List (Instant × Step)) (generation : Nat) :
    let later := (scenario.reached steps).app
    later.poll ⟨place, generation⟩ = (later, .ended) := by
  intro later
  have there : later.connections[place]? = _ := reached_passages here steps
  have still := (connection.undergoAll_isClosed (scenario.passages place steps)).mpr (.inl closed)
  simp only [App.poll, there, Connection.poll_closed still, App.setConnection_same there]

theorem removes_of_place (exact : scenario.app.Exact) {id : String}
    (placed : scenario.app.place? id = some place) (now : Instant) :
    scenario.Removes place now (.close id) ∧
      (∀ session page, (scenario.app.connect now id session page).isSome = true →
        scenario.Removes place now (.create id session page)) ∧
      ∀ instant ttl, scenario.app.isExpired instant ttl place = true →
        scenario.Removes place now (.sweep instant ttl) := by
  obtain ⟨connection, here, rfl⟩ := exact.standing id place placed
  have unclosed : ∀ other, scenario.app.connections[place]? = some other →
      other.isClosed = false := by
    intro other there
    rw [← Option.some.inj (here.symm.trans there)]
    exact (exact.open_iff place connection here).mpr placed
  obtain ⟨closes, replaces, sweeps⟩ := shuts_of_place here placed now
  refine ⟨⟨unclosed, closes⟩, fun session page made => ⟨unclosed, replaces session page made⟩,
    fun instant ttl old => ⟨unclosed, sweeps instant ttl ?_⟩⟩
  simpa [App.isExpired, here] using old

/-- Where the view panics, the connection that was created for the page is shut down. -/
theorem removes_of_panic (exact : scenario.app.Exact) {route : String} {cookie : Option String}
    {named : String}
    (panicked : (scenario.app.loadPage now route cookie).2 = .error (.viewPanicked named)) :
    scenario.Removes scenario.app.connections.length now (.render route cookie) := by
  obtain ⟨numbered, connection, same, loaded⟩ := App.loadPage_panicked panicked
  have stepped : (scenario.step now (.render route cookie)).scenario.app =
      ((numbered.register connection).close connection.id).1 := by
    rw [← loaded, Scenario.step]
    split <;> next rendered => rw [rendered]; rfl
  have exactly : (scenario.step now (.render route cookie)).scenario.app.Exact :=
    reached_exact exact [(now, .render route cookie)]
  rw [stepped] at exactly
  have last := numbered.register_last connection
  rw [same] at last
  obtain ⟨later, there, continued⟩ :=
    App.apply_continues _ now (.close connection.id) _ _ last
  refine ⟨fun other beyond => ?_, later, stepped ▸ there, ?_⟩
  · simp at beyond
  · rw [← Bool.not_eq_false, exactly.open_iff _ _ there, continued.id, App.place?_close]
    simp

end

end Scenario

/-- In every run a connection is open just when its id leads to it, so that what is looked up has
the id and is open, and no id and no connection is registered twice. Closing, replacing, sweeping and
a view that panics shut a connection down. Its push channels are over, and every other connection
is as it was. -/
theorem registry_exact {config : Config} {pages : List Page} {app : App}
    (built : App.build config pages = .ok app) (steps : List (Instant × Step)) :
    let scenario := (Scenario.ofApp app).reached steps
    (∀ place connection, scenario.app.connections[place]? = some connection →
      (connection.isClosed = false ↔ scenario.app.place? connection.id = some place)) ∧
    (∀ id connection, scenario.app.lookup id = some connection →
      connection.id = id ∧ connection.isClosed = false) ∧
    scenario.app.registered.keys.Nodup ∧
    (∀ id other place, scenario.app.place? id = some place →
      scenario.app.place? other = some place → id = other) ∧
    (∀ now id place, scenario.app.place? id = some place →
      scenario.Removes place now (.close id) ∧
      (∀ session page, (scenario.app.connect now id session page).isSome = true →
        scenario.Removes place now (.create id session page)) ∧
      ∀ instant ttl, scenario.app.isExpired instant ttl place = true →
        scenario.Removes place now (.sweep instant ttl)) ∧
    (∀ now route cookie named,
      (scenario.app.loadPage now route cookie).2 = .error (.viewPanicked named) →
        scenario.Removes scenario.app.connections.length now (.render route cookie)) ∧
    ∀ now step removed, scenario.Removes removed now step →
      (∀ later generation,
        let after := ((scenario.step now step).scenario.reached later).app
        after.poll ⟨removed, generation⟩ = (after, .ended)) ∧
      ∀ place connection, scenario.app.connections[place]? = some connection →
        ∃ later, (scenario.step now step).scenario.app.connections[place]? = some later ∧
          (scenario.Removes place now step → later = connection.retire) ∧
          (¬ scenario.Removes place now step → later = connection) := by
  intro scenario
  have exact : scenario.app.Exact := Scenario.reached_exact (App.exact_of_built built) steps
  have looked : ∀ id connection, scenario.app.lookup id = some connection →
      connection.id = id ∧ connection.isClosed = false := by
    intro id connection found
    obtain ⟨place, placed, here⟩ := Option.bind_eq_some_iff.mp found
    obtain ⟨standing, there, rfl⟩ := exact.standing id place placed
    obtain rfl := Option.some.inj (there.symm.trans here)
    exact ⟨rfl, (exact.open_iff place standing here).mpr placed⟩
  refine ⟨exact.open_iff, looked, ?_, ?_, fun now id place placed =>
    Scenario.removes_of_place exact placed now, fun now route cookie named panicked =>
    Scenario.removes_of_panic exact panicked, fun now step removed gone => ⟨?_, ?_⟩⟩
  · refine List.pairwise_map.mpr (scenario.app.registered.ordered.imp fun before same => ?_)
    exact String.lt_irrefl _ (same ▸ before)
  · intro id other place placed also
    obtain ⟨connection, here, rfl⟩ := exact.standing id place placed
    obtain ⟨found, there, rfl⟩ := exact.standing other place also
    rw [Option.some.inj (here.symm.trans there)]
  · obtain ⟨-, shut, there, closed⟩ := gone
    exact fun later generation => Scenario.polls_ended there closed later generation
  · exact fun place connection here => Scenario.step_removes gone here

-- The second tab takes the id of the first; a page whose view panics is closed at once.
def trapPage : Page := .of {
  id := "trap"
  route := some "/trap"
  view := [.panic]
  states := []
  signals := []
  actions := KeyMap.empty
  owners := KeyMap.empty
  components := [] }

def trapApp : App :=
  ⟨KeyMap.ofList [("/trap", trapPage)], Config.defaults, Shared.empty, [], KeyMap.empty, ⟨0, 0⟩⟩

def twiceCreated : List (Instant × Step) :=
  [(1, .create "tab" none trapPage), (3, .create "tab" none trapPage)]

theorem registry_exact_twice_created :
    App.build Config.defaults [trapPage] = .ok trapApp ∧
      let scenario := (Scenario.ofApp trapApp).reached twiceCreated
      (∃ first, scenario.app.connections[0]? = some first ∧ first.isClosed = true) ∧
      scenario.Removes 1 5 (.create "tab" none trapPage) ∧ scenario.Removes 1 5 (.close "tab") ∧
      scenario.Removes 1 5 (.sweep 9 5) ∧ scenario.Removes 2 5 (.render "/trap" none) ∧
      ∀ later generation,
        let after := ((scenario.step 5 (.render "/trap" none)).scenario.reached later).app
        after.poll ⟨2, generation⟩ = (after, .ended) := by
  have built : App.build Config.defaults [trapPage] = .ok trapApp := rfl
  refine ⟨built, ?_⟩
  intro scenario
  obtain ⟨agrees, -, -, -, removes, panics, others⟩ := registry_exact built twiceCreated
  obtain ⟨closes, replaces, sweeps⟩ := removes 5 "tab" 1 rfl
  have shut := panics 5 "/trap" none "/trap" rfl
  refine ⟨⟨_, rfl, ?_⟩, replaces none trapPage rfl, closes, sweeps 9 5 rfl, shut,
    (others 5 _ 2 shut).1⟩
  rw [← Bool.not_eq_false, agrees 0 _ rfl]
  nofun

end LiveTabs
