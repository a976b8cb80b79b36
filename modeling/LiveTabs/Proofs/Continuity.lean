import LiveTabs.Proofs.Changes
import LiveTabs.Proofs.Connection
import LiveTabs.Proofs.Sessions
/-!
What no change can do: give values back to a refused session, turn the connection at a place into
another one, or touch the configuration.
-/
namespace LiveTabs

/-- The same connection later: a page and a session are given once and for all. -/
structure Connection.Continues (before after : Connection) : Prop where
  id : after.id = before.id
  session : after.session = before.session
  page : after.page = before.page

namespace Connection

theorem Continues.refl (connection : Connection) : connection.Continues connection :=
  ⟨rfl, rfl, rfl⟩

theorem Continues.trans {first second third : Connection} (early : first.Continues second)
    (late : second.Continues third) : first.Continues third :=
  ⟨late.id.trans early.id, late.session.trans early.session, late.page.trans early.page⟩

theorem subscribe_continues (connection : Connection) :
    connection.Continues connection.subscribe.1 := by
  unfold subscribe
  split <;> exact ⟨rfl, rfl, rfl⟩

theorem poll_continues (connection : Connection) (generation : Nat) :
    connection.Continues (connection.poll generation).1 := by
  obtain ⟨-, ended⟩ | ⟨-, ⟨-, pending⟩ | ⟨patch, rest, -, taken⟩⟩ :=
    connection.poll_cases generation
  · rw [ended]
    exact Continues.refl connection
  · rw [pending]
    exact Continues.refl connection
  · rw [taken]
    exact ⟨rfl, rfl, rfl⟩

end Connection

namespace Scene

theorem carryOutAll_session (scene : Scene) (now : Instant) (deeds : List Deed) :
    (scene.carryOutAll now deeds).session = scene.session :=
  (scene.carryOutAll_frame now deeds).1

/-- All that a deed does to the sessions: it writes to that of the scene, or refuses it. -/
theorem carryOut_sessions (scene : Scene) (now : Instant) (deed : Deed) :
    (scene.carryOut now deed).shared.sessions = scene.shared.sessions ∨
      ∃ id, scene.session = some id ∧
        ((∃ key value, (scene.carryOut now deed).shared.sessions =
          (scene.shared.sessions.set now id key value).1) ∨
        (scene.carryOut now deed).shared.sessions = scene.shared.sessions.refuse now id) := by
  cases deed with
  | write scope key written =>
    cases scope with
    | connection => exact .inl rfl
    | application => exact .inl rfl
    | session =>
      cases session : scene.session with
      | none => exact .inl (by simp [carryOut, store, session])
      | some id =>
        exact .inr ⟨id, rfl, .inl ⟨key, written, by simp [carryOut, store, session, withSessions]⟩⟩
  | refuse =>
    cases session : scene.session with
    | none => exact .inl (by simp [carryOut, refuseSession, session])
    | some id =>
      exact .inr ⟨id, rfl, .inr (by simp [carryOut, refuseSession, session, withSessions])⟩
  | flush =>
    refine .inl ?_
    cases changed : scene.tab.changed.isEmpty <;> simp [carryOut, offerChanged, changed, enqueue]
  | takeOver taken => exact .inl rfl
  | signal key written => exact .inl rfl
  | elements html => exact .inl rfl
  | script text => exact .inl rfl

theorem carryOut_keeps {kept : Sessions → Prop} (keeps : Sessions.Kept kept) (scene : Scene)
    (now : Instant) (deed : Deed) (start : kept scene.shared.sessions) :
    kept (scene.carryOut now deed).shared.sessions := by
  obtain same | ⟨id, -, ⟨key, value, stored⟩ | refused⟩ := scene.carryOut_sessions now deed
  · rwa [same]
  · rw [stored]
    exact keeps.set start now id key value
  · rw [refused]
    exact keeps.refuse start now id

theorem carryOutAll_keeps {kept : Sessions → Prop} (keeps : Sessions.Kept kept) (scene : Scene)
    (now : Instant) (deeds : List Deed) (start : kept scene.shared.sessions) :
    kept (scene.carryOutAll now deeds).shared.sessions := by
  induction deeds generalizing scene with
  | nil => exact start
  | cons deed rest ih => exact ih _ (carryOut_keeps keeps scene now deed start)

theorem carryOutAll_sealed (scene : Scene) (now : Instant) (deeds : List Deed)
    (sealed : scene.shared.sessions.Sealed) :
    (scene.carryOutAll now deeds).shared.sessions.Sealed :=
  carryOutAll_keeps Sessions.sealed_kept scene now deeds sealed

end Scene

namespace App

theorem register_shared (app : App) (connection : Connection) :
    (app.register connection).shared = app.shared := by
  obtain ⟨replaced, rfl | ⟨place, -, rfl⟩, registered⟩ := app.register_cases connection
  · rw [registered]
  · rw [registered]
    rfl

theorem retired_rest (app : App) (gone : List (String × Nat)) :
    let after := gone.foldl (fun app entry => app.modify entry.2 Connection.retire) app
    after = { app with connections := after.connections } := by
  apply retired_induction (motive := fun after =>
    after = { app with connections := after.connections })
  · intro after place same
    rw [same]
    rfl
  · rfl

theorem close_shared (app : App) (id : String) : (app.close id).1.shared = app.shared := by
  obtain ⟨-, closed⟩ | ⟨place, -, closed⟩ := app.close_cases id
  · rw [closed]
  · rw [closed]
    rfl

/-- A change keeps what all that is done to the sessions keeps, if it keeps it on entering one. -/
theorem apply_keeps {kept : Sessions → Prop} (keeps : Sessions.Kept kept) (app : App)
    (now : Instant) (change : Change)
    (enters : ∀ id, change = .ensureSession id → kept (app.shared.sessions.ensure now id))
    (start : kept app.shared.sessions) : kept (app.apply now change).shared.sessions := by
  cases change with
  | ensureSession id => exact enters id rfl
  | refreshSession id => exact keeps.refresh start now id
  | setSession id key value => exact keeps.set start now id key value
  | refuseSession id => exact keeps.refuse start now id
  | setApplication key value => exact start
  | number ids => exact start
  | connect id session page =>
    cases fresh : Connection.fresh? now id session page app.config.patchQueueCapacity with
    | none => simpa [apply, connect, fresh] using start
    | some connection => simpa [apply, connect, fresh, register_shared] using start
  | touch place => exact start
  | work place mode deeds =>
    cases found : app.connections[place]? with
    | none => simpa [apply, work, found] using start
    | some connection =>
      simp only [apply, work, found]
      exact Scene.carryOutAll_keeps keeps (connection.scene app.shared mode) now deeds start
  | subscribe place =>
    rw [apply, subscribeAt_eq_modify]
    exact start
  | poll channel =>
    rw [apply, poll_eq_modify]
    exact start
  | pop place => exact start
  | drain place => exact start
  | close id =>
    rw [apply, close_shared]
    exact start
  | sweep instant ttl => exact keeps.sweep start instant app.sessionWindow

/-- No change gives values to a refused session. -/
theorem apply_sealed (app : App) (now : Instant) (change : Change)
    (sealed : app.shared.sessions.Sealed) : (app.apply now change).shared.sessions.Sealed :=
  apply_keeps Sessions.sealed_kept app now change
    (fun id _ => Sessions.sealed_ensure sealed now id) sealed

/-- The pages and the configuration are given once and for all. -/
theorem apply_fixed (app : App) (now : Instant) (change : Change) :
    (app.apply now change).pages = app.pages ∧ (app.apply now change).config = app.config := by
  cases change with
  | connect id session page =>
    cases fresh : Connection.fresh? now id session page app.config.patchQueueCapacity with
    | none => simp [apply, connect, fresh]
    | some connection =>
      obtain ⟨replaced, rfl | ⟨place, -, rfl⟩, registered⟩ := app.register_cases connection <;>
        simp [apply, connect, fresh, registered, modify]
  | work place mode deeds =>
    cases found : app.connections[place]? <;> simp [apply, work, found, setConnection]
  | subscribe place =>
    rw [apply, subscribeAt_eq_modify]
    exact ⟨rfl, rfl⟩
  | poll channel =>
    rw [apply, poll_eq_modify]
    exact ⟨rfl, rfl⟩
  | close id =>
    obtain ⟨-, closed⟩ | ⟨place, -, closed⟩ := app.close_cases id
    · rw [apply, closed]
      exact ⟨rfl, rfl⟩
    · rw [apply, closed]
      exact ⟨rfl, rfl⟩
  | sweep instant ttl =>
    simp only [apply, sweep, withSessions]
    rw [retired_rest]
    exact ⟨rfl, rfl⟩
  | ensureSession id => exact ⟨rfl, rfl⟩
  | refreshSession id => exact ⟨rfl, rfl⟩
  | setSession id key value => exact ⟨rfl, rfl⟩
  | refuseSession id => exact ⟨rfl, rfl⟩
  | setApplication key value => exact ⟨rfl, rfl⟩
  | number ids => exact ⟨rfl, rfl⟩
  | touch place => exact ⟨rfl, rfl⟩
  | pop place => exact ⟨rfl, rfl⟩
  | drain place => exact ⟨rfl, rfl⟩

/-- Whoever stands at a place stays there. -/
def Continues (before after : App) : Prop :=
  ∀ (place : Nat) (connection : Connection), before.connections[place]? = some connection →
    ∃ later, after.connections[place]? = some later ∧ connection.Continues later

theorem Continues.refl (app : App) : app.Continues app :=
  fun _ connection found => ⟨connection, found, Connection.Continues.refl connection⟩

theorem Continues.trans {first second third : App} (early : first.Continues second)
    (late : second.Continues third) : first.Continues third := by
  intro place connection found
  obtain ⟨middle, there, continued⟩ := early place connection found
  obtain ⟨last, stays, further⟩ := late place middle there
  exact ⟨last, stays, continued.trans further⟩

/-- There are never fewer connections. -/
theorem Continues.length_le {before after : App} (continues : before.Continues after) :
    before.connections.length ≤ after.connections.length := by
  cases last : before.connections.length with
  | zero => exact Nat.zero_le _
  | succ place =>
    obtain ⟨later, there, -⟩ := continues place _
      (List.getElem?_eq_getElem (last ▸ Nat.lt_succ_self place))
    exact (List.getElem?_eq_some_iff.mp there).1

theorem modify_continues (app : App) (place : Nat) (change : Connection → Connection)
    (kept : ∀ connection : Connection, connection.Continues (change connection)) :
    app.Continues (app.modify place change) := by
  intro other connection found
  by_cases here : place = other
  · subst here
    exact ⟨change connection, by simp [modify, found], kept connection⟩
  · exact ⟨connection, by simp [modify, here, found], Connection.Continues.refl connection⟩

theorem retired_continues (app : App) (gone : List (String × Nat)) :
    app.Continues (gone.foldl (fun app entry => app.modify entry.2 Connection.retire) app) := by
  apply retired_induction (motive := app.Continues)
  · intro after place continued
    exact continued.trans (after.modify_continues place Connection.retire fun _ => ⟨rfl, rfl, rfl⟩)
  · exact Continues.refl app

theorem register_continues (app : App) (connection : Connection) :
    app.Continues (app.register connection) := by
  obtain ⟨replaced, before, registered⟩ := app.register_cases connection
  have continued : app.Continues replaced := by
    rcases before with rfl | ⟨place, -, rfl⟩
    · exact Continues.refl replaced
    · exact app.modify_continues place Connection.retire fun _ => ⟨rfl, rfl, rfl⟩
  intro place other found
  obtain ⟨later, there, same⟩ := continued place other found
  have inside := (List.getElem?_eq_some_iff.mp there).1
  rw [registered]
  exact ⟨later, (List.getElem?_append_left inside).trans there, same⟩

theorem apply_continues (app : App) (now : Instant) (change : Change) :
    app.Continues (app.apply now change) := by
  cases change with
  | ensureSession id => exact Continues.refl app
  | refreshSession id => exact Continues.refl app
  | setSession id key value => exact Continues.refl app
  | refuseSession id => exact Continues.refl app
  | setApplication key value => exact Continues.refl app
  | number ids => exact Continues.refl app
  | connect id session page =>
    cases fresh : Connection.fresh? now id session page app.config.patchQueueCapacity with
    | none => simpa [apply, connect, fresh] using Continues.refl app
    | some connection => simpa [apply, connect, fresh] using app.register_continues connection
  | touch place => exact app.modify_continues place _ fun _ => ⟨rfl, rfl, rfl⟩
  | work place mode deeds =>
    cases found : app.connections[place]? with
    | none => simpa [apply, work, found] using Continues.refl app
    | some connection =>
      have worked := setConnection_eq_modify found
        fun connection => (connection.work app.shared now mode deeds).1
      simp only [apply, work, found, worked]
      exact app.modify_continues place _ fun _ => ⟨rfl, rfl, rfl⟩
  | subscribe place =>
    rw [apply, subscribeAt_eq_modify]
    exact app.modify_continues place _ Connection.subscribe_continues
  | poll channel =>
    rw [apply, poll_eq_modify]
    exact app.modify_continues channel.place _ fun other =>
      other.poll_continues channel.generation
  | pop place => exact app.modify_continues place _ fun _ => ⟨rfl, rfl, rfl⟩
  | drain place => exact app.modify_continues place _ fun _ => ⟨rfl, rfl, rfl⟩
  | close id =>
    rw [apply]
    obtain ⟨-, closed⟩ | ⟨place, -, closed⟩ := app.close_cases id
    · rw [closed]
      exact Continues.refl app
    · rw [closed]
      exact app.modify_continues place Connection.retire fun _ => ⟨rfl, rfl, rfl⟩
  | sweep instant ttl => exact app.retired_continues _

end App

theorem Scenario.step_sealed (scenario : Scenario) (now : Instant) (step : Step)
    (sealed : scenario.app.shared.sessions.Sealed) :
    (scenario.step now step).scenario.app.shared.sessions.Sealed := by
  rw [step_changes]
  exact App.applyAll_induction now (fun app change => app.apply_sealed now change) _ _ sealed

theorem Scenario.step_continues (scenario : Scenario) (now : Instant) (step : Step) :
    scenario.app.Continues (scenario.step now step).scenario.app := by
  rw [step_changes]
  exact App.applyAll_induction now
    (fun app change before => before.trans (app.apply_continues now change)) _ _
    (App.Continues.refl scenario.app)

theorem Scenario.reached_continues (scenario : Scenario) (steps : List (Instant × Step)) :
    scenario.app.Continues (scenario.reached steps).app :=
  reached_induction (fun now app _ before => before.trans (app.apply_continues now _)) scenario
    steps (App.Continues.refl scenario.app)

end LiveTabs
