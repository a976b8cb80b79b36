import LiveTabs.Proofs.Continuity
/-!
Since when a session is refused, as the history of a run has it: since it was refused last, unless a
sweep came more than the window after that. And while it is refused there is no session of that id,
as long as none is entered then.
-/
namespace LiveTabs

/-- What bears on whether a session is refused. -/
inductive RefusalEvent where
  | refused (session : String) (instant : Instant)
  | swept (instant : Instant)

namespace RefusalEvent

def instant : RefusalEvent → Instant
  | .refused _ instant => instant
  | .swept instant => instant

/-- Since when a session is refused after an event, if it was since then before. -/
def leaves (session : String) (window : Duration) (since : Option Instant) :
    RefusalEvent → Option Instant
  | .refused other instant => if session = other then some instant else since
  | .swept instant => since.filter fun refusal => !expired instant refusal window

end RefusalEvent

/-- No sweep comes later than the window after the latest refusal, and the first refusal is the one
at `since`. -/
def Unforgotten (session : String) (window : Duration) (since : Instant) :
    List RefusalEvent → Prop
  | [] => True
  | .refused other instant :: rest =>
    Unforgotten session window (if session = other then instant else since) rest
  | .swept instant :: rest => instant ≤ since + window ∧ Unforgotten session window since rest

theorem refused_of_unforgotten {session : String} {window : Duration} {since : Instant}
    {events : List RefusalEvent} (kept : Unforgotten session window since events) :
    ∃ latest, events.foldl (RefusalEvent.leaves session window) (some since) = some latest := by
  induction events generalizing since with
  | nil => exact ⟨since, rfl⟩
  | cons event rest ih =>
    cases event with
    | refused other instant =>
      by_cases same : session = other
      · simpa [RefusalEvent.leaves, same] using ih (by simpa [Unforgotten, same] using kept)
      · simpa [RefusalEvent.leaves, same] using ih (by simpa [Unforgotten, same] using kept)
    | swept instant =>
      obtain ⟨early, later⟩ := kept
      have young := (expired_eq_false_iff instant since window).mpr early
      simpa [RefusalEvent.leaves, Option.filter, young] using ih later

-- Refusals only get later, so that a window which reaches past all events is never left.
theorem unforgotten_within {session : String} {window : Duration} {first since : Instant}
    (begun : first ≤ since) {events : List RefusalEvent}
    (inside : ∀ event ∈ events, first ≤ event.instant ∧ event.instant ≤ first + window) :
    Unforgotten session window since events := by
  induction events generalizing since with
  | nil => trivial
  | cons event rest ih =>
    have here := inside event List.mem_cons_self
    have later := fun other member => inside other (List.mem_cons_of_mem event member)
    cases event with
    | refused other instant =>
      refine ih ?_ later
      by_cases same : session = other
      · rw [if_pos same]
        exact here.1
      · rw [if_neg same]
        exact begun
    | swept instant =>
      exact ⟨Nat.le_trans here.2 (Nat.add_le_add_right begun window), ih begun later⟩

namespace Scene

def refusals (now : Instant) (scene : Scene) : Deed → List RefusalEvent
  | .refuse => scene.session.toList.map fun session => .refused session now
  | .takeOver _ => []
  | .write _ _ _ => []
  | .signal _ _ => []
  | .elements _ => []
  | .script _ => []
  | .flush => []

def refusedSince? (scene : Scene) (session : String) : Option Instant :=
  scene.shared.sessions.refused.get? session

theorem carryOut_refused (session : String) (window : Duration) (now : Instant) (scene : Scene)
    (deed : Deed) :
    (scene.carryOut now deed).refusedSince? session =
      (scene.refusals now deed).foldl (RefusalEvent.leaves session window)
        (scene.refusedSince? session) := by
  cases deed with
  | write scope key written =>
    cases scope with
    | connection => rfl
    | application => rfl
    | session =>
      cases own : scene.session <;>
        simp [carryOut, store, own, withSessions, refusedSince?, refusals]
  | refuse =>
    cases own : scene.session <;>
      simp [carryOut, refuseSession, own, withSessions, refusedSince?, refusals, Sessions.refuse,
        RefusalEvent.leaves]
  | flush =>
    cases changed : scene.tab.changed.isEmpty <;>
      simp [carryOut, offerChanged, changed, enqueue, refusedSince?, refusals]
  | takeOver taken => rfl
  | signal key written => rfl
  | elements html => rfl
  | script text => rfl

theorem carryOutAll_refused (session : String) (window : Duration) (now : Instant)
    (scene : Scene) (deeds : List Deed) :
    (scene.carryOutAll now deeds).refusedSince? session =
      (scene.along now (refusals now) deeds).foldl (RefusalEvent.leaves session window)
        (scene.refusedSince? session) :=
  carryOutAll_along (fun scene => scene.refusedSince? session) now
    (carryOut_refused session window now) scene deeds

end Scene

/-- Neither enters a session nor sweeps. -/
def Change.plain : Change → Bool
  | .ensureSession _ => false
  | .sweep _ _ => false
  | _ => true

-- A session is not entered while it is refused.
def Change.Admitted (app : App) : Change → Prop
  | .ensureSession id => app.shared.sessions.isRefused id = false
  | _ => True

/-- A sweep goes by the true time. -/
def Change.Timely (now : Instant) : Change → Prop
  | .sweep instant _ => instant = now
  | _ => True

namespace App

def refusals (now : Instant) (app : App) : Change → List RefusalEvent
  | .refuseSession id => [.refused id now]
  | .work place mode deeds =>
    match app.connections[place]? with
    | none => []
    | some connection =>
      (connection.scene app.shared mode).along now (Scene.refusals now) deeds
  | .sweep instant _ => [.swept instant]
  | .ensureSession _ => []
  | .refreshSession _ => []
  | .setSession _ _ _ => []
  | .setApplication _ _ => []
  | .number _ => []
  | .connect _ _ _ => []
  | .touch _ => []
  | .subscribe _ => []
  | .poll _ => []
  | .pop _ => []
  | .drain _ => []
  | .close _ => []

def refusedSince? (app : App) (session : String) : Option Instant :=
  app.shared.sessions.refused.get? session

theorem apply_refused {window : Duration} (session : String) (now : Instant) (app : App)
    (change : Change) (fixed : app.sessionWindow = window) :
    (app.apply now change).refusedSince? session =
      (app.refusals now change).foldl (RefusalEvent.leaves session window)
        (app.refusedSince? session) := by
  have same {after : App} (kept : after.shared = app.shared) :
      after.refusedSince? session = app.refusedSince? session := by rw [refusedSince?, kept]; rfl
  cases change with
  | ensureSession id => simp [apply, withSessions, refusedSince?, refusals]
  | refreshSession id => simp [apply, withSessions, refusedSince?, refusals]
  | setSession id key value => simp [apply, withSessions, refusedSince?, refusals]
  | refuseSession id =>
    simp [apply, refuseSession, withSessions, refusedSince?, refusals, Sessions.refuse,
      RefusalEvent.leaves]
  | setApplication key value => rfl
  | number ids => rfl
  | connect id own page =>
    cases fresh : Connection.fresh? now id own page app.config.patchQueueCapacity with
    | none => simp [apply, connect, fresh, refusals]
    | some connection =>
      exact same (by simp [apply, connect, fresh, register_shared])
  | touch place => rfl
  | work place mode deeds =>
    cases found : app.connections[place]? with
    | none => simp [apply, work, found, refusals]
    | some connection =>
      simp only [apply, work, found, refusals]
      exact (connection.scene app.shared mode).carryOutAll_refused session window now deeds
  | subscribe place =>
    rw [apply, subscribeAt_eq_modify]
    rfl
  | poll channel =>
    rw [apply, poll_eq_modify]
    rfl
  | pop place => rfl
  | drain place => rfl
  | close id => exact same (app.close_shared id)
  | sweep instant ttl =>
    simp [apply, sweep, withSessions, refusedSince?, refusals, Sessions.sweep,
      RefusalEvent.leaves, fixed]

theorem apply_apart (app : App) (now : Instant) (change : Change)
    (apart : app.shared.sessions.Apart) (admitted : change.Admitted app) :
    (app.apply now change).shared.sessions.Apart := by
  refine apply_keeps Sessions.apart_kept app now change (fun id entered => ?_) apart
  subst entered
  exact Sessions.apart_ensure apart now admitted

def Admits (now : Instant) (app : App) : List Change → Prop
  | [] => True
  | change :: rest => change.Admitted app ∧ (app.apply now change).Admits now rest

theorem admits_append {app : App} {now : Instant} {first later : List Change}
    (before : app.Admits now first) (after : (app.applyAll now first).Admits now later) :
    app.Admits now (first ++ later) := by
  induction first generalizing app with
  | nil => exact after
  | cons change rest ih => exact ⟨before.1, ih before.2 after⟩

theorem admits_of_plain (now : Instant) (app : App) (changes : List Change)
    (plain : changes.all Change.plain = true) : app.Admits now changes := by
  induction changes generalizing app with
  | nil => trivial
  | cons change rest ih =>
    rw [List.all_cons, Bool.and_eq_true] at plain
    refine ⟨?_, ih _ plain.2⟩
    cases change with
    | ensureSession id => nomatch plain.1
    | _ => trivial

theorem applyAll_apart {app : App} {now : Instant} {changes : List Change}
    (apart : app.shared.sessions.Apart) (admitted : app.Admits now changes) :
    (app.applyAll now changes).shared.sessions.Apart := by
  induction changes generalizing app with
  | nil => exact apart
  | cons change rest ih => exact ih (app.apply_apart now change apart admitted.1) admitted.2

end App
end LiveTabs
