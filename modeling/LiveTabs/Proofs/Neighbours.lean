import LiveTabs.Proofs.Expiry
import LiveTabs.Proofs.Sharing
/-!
What a session has of the application: its tabs, each at its place, and its entry among the
sessions. Nothing that is done to the tabs of other sessions changes it, and what is done everywhere
alike changes it alike.
-/
namespace LiveTabs

/-- The connection, if it carries the session. -/
def Connection.of? (session : String) (connection : Connection) : Option Connection :=
  if connection.session = some session then some connection else none

namespace Connection
variable {session : String} {connection : Connection}

theorem of?_eq_some_iff {other : Connection} :
    connection.of? session = some other ↔
      connection = other ∧ connection.session = some session := by
  unfold of?
  split <;> simp_all

theorem of?_continued {later : Connection} (continued : connection.Continues later) :
    later.of? session = (connection.of? session).map fun _ => later := by
  unfold of?
  rw [continued.session]
  split <;> rfl

end Connection

namespace Scene

/-- Deeds in the tab of another session leave a session as it is. -/
theorem carryOutAll_apart {session : String} {scene : Scene}
    (other : scene.session ≠ some session) (now : Instant) (deeds : List Deed) :
    scene.shared.sessions.Agrees session (scene.carryOutAll now deeds).shared.sessions := by
  induction deeds generalizing scene with
  | nil => exact Sessions.Agrees.refl _
  | cons deed rest ih =>
    have first : scene.shared.sessions.Agrees session
        (scene.carryOut now deed).shared.sessions := by
      obtain same | ⟨id, own, done⟩ := scene.carryOut_sessions now deed
      · rw [same]
        exact Sessions.Agrees.refl _
      · have apart : session ≠ id := fun same => other (same ▸ own)
        obtain ⟨key, value, stored⟩ | refused := done
        · rw [stored]
          exact Sessions.set_apart _ now apart key value
        · rw [refused]
          exact Sessions.refuse_apart _ now apart
    have still : (scene.carryOut now deed).session ≠ some session := by
      rw [(scene.carryOut_frame now deed).1]
      exact other
    exact first.trans (ih still)

end Scene

namespace App

/-- The session's tab at a place. -/
def own? (app : App) (session : String) (place : Nat) : Option Connection :=
  app.connections[place]?.bind (Connection.of? session)

/-- Where an id leads, if it leads to a tab of the session. -/
def lead? (app : App) (session id : String) : Option Nat :=
  (app.place? id).filter fun place => (app.own? session place).isSome

/-- Two applications of which a session has the same. -/
structure Alike (session : String) (left right : App) : Prop where
  pages : left.pages = right.pages
  config : left.config = right.config
  count : left.connections.length = right.connections.length
  own : ∀ place, left.own? session place = right.own? session place
  sessions : left.shared.sessions.Agrees session right.shared.sessions

/-- The values of the application are the same, too. -/
structure Agrees (session : String) (left right : App) : Prop extends
    Alike session left right where
  application : left.shared.application = right.shared.application

variable {session : String}

theorem own?_eq_some_iff {app : App} {place : Nat} {connection : Connection} :
    app.own? session place = some connection ↔
      app.connections[place]? = some connection ∧ connection.session = some session := by
  rw [own?, Option.bind_eq_some_iff]
  constructor
  · rintro ⟨found, here, carries⟩
    obtain ⟨rfl, own⟩ := Connection.of?_eq_some_iff.mp carries
    exact ⟨here, own⟩
  · rintro ⟨here, own⟩
    exact ⟨connection, here, Connection.of?_eq_some_iff.mpr ⟨rfl, own⟩⟩

theorem own?_eq_none_iff {app : App} {place : Nat} :
    app.own? session place = none ↔
      ∀ connection, app.connections[place]? = some connection →
        connection.session ≠ some session := by
  rw [Option.eq_none_iff_forall_ne_some]
  simp only [ne_eq, own?_eq_some_iff, not_and]

/-- Where registry and connections agree, an id leads to the open tab that has it. -/
theorem lead?_eq_some_iff {app : App} (exact : app.Exact) {id : String} {place : Nat} :
    app.lead? session id = some place ↔
      ∃ connection, app.own? session place = some connection ∧ connection.id = id ∧
        connection.isClosed = false := by
  rw [lead?, Option.filter_eq_some_iff, Option.isSome_iff_exists]
  constructor
  · rintro ⟨placed, connection, own⟩
    have here := (own?_eq_some_iff.mp own).1
    obtain ⟨standing, there, rfl⟩ := exact.standing id place placed
    obtain rfl := Option.some.inj (here.symm.trans there)
    exact ⟨connection, own, rfl, (exact.open_iff place connection here).mpr placed⟩
  · rintro ⟨connection, own, rfl, unclosed⟩
    have here := (own?_eq_some_iff.mp own).1
    exact ⟨(exact.open_iff place connection here).mp unclosed, connection, own⟩

namespace Alike
variable {left middle right : App}

theorem refl (app : App) : app.Alike session app :=
  ⟨rfl, rfl, rfl, fun _ => rfl, Sessions.Agrees.refl _⟩

theorem symm (alike : left.Alike session right) : right.Alike session left :=
  ⟨alike.pages.symm, alike.config.symm, alike.count.symm, fun place => (alike.own place).symm,
    alike.sessions.symm⟩

theorem trans (first : left.Alike session middle) (later : middle.Alike session right) :
    left.Alike session right :=
  ⟨first.pages.trans later.pages, first.config.trans later.config, first.count.trans later.count,
    fun place => (first.own place).trans (later.own place), first.sessions.trans later.sessions⟩

theorem lead (alike : left.Alike session right) (exact : left.Exact) (also : right.Exact)
    (id : String) : left.lead? session id = right.lead? session id := by
  apply Option.ext
  intro place
  rw [lead?_eq_some_iff exact, lead?_eq_some_iff also, alike.own]

end Alike

namespace Agrees
variable {left middle right : App}

theorem refl (app : App) : app.Agrees session app := ⟨Alike.refl app, rfl⟩

theorem symm (agrees : left.Agrees session right) : right.Agrees session left :=
  ⟨agrees.toAlike.symm, agrees.application.symm⟩

theorem trans (first : left.Agrees session middle) (later : middle.Agrees session right) :
    left.Agrees session right :=
  ⟨first.toAlike.trans later.toAlike, first.application.trans later.application⟩

theorem shared (agrees : left.Agrees session right) : left.shared.Agrees session right.shared :=
  ⟨agrees.application, agrees.sessions⟩

end Agrees

section
variable (app : App) (now : Instant) (change : Change) {place : Nat}

theorem own?_apply_found {connection : Connection}
    (here : app.connections[place]? = some connection) :
    (app.apply now change).own? session place =
      (app.own? session place).map fun own => own.undergoAll (app.passages place now change) := by
  obtain ⟨later, there, continued⟩ := app.apply_continues now change place connection here
  have undergone := there.symm.trans (apply_passages here now change)
  rw [own?, own?, there, here, Option.bind_some, Option.bind_some,
    Connection.of?_continued continued, Option.some.inj undergone]
  cases carries : connection.of? session with
  | none => rfl
  | some own =>
    obtain ⟨rfl, -⟩ := Connection.of?_eq_some_iff.mp carries
    rfl

theorem own?_apply_beyond (beyond : app.connections[place]? = none) :
    let created := (app.created now change).map (Connection.of? session)
    (app.apply now change).own? session place =
      created[place - app.connections.length]?.join := by
  intro created
  have behind := List.getElem?_eq_none_iff.mp beyond
  rw [own?, List.getElem?_map, ← apply_created, List.getElem?_drop, Nat.add_sub_cancel' behind]
  cases (app.apply now change).connections[place]? <;> rfl

theorem apply_length :
    (app.apply now change).connections.length =
      app.connections.length + (app.created now change).length := by
  rw [← apply_created, List.length_drop]
  have grown : app.connections.length ≤ (app.apply now change).connections.length := by
    refine Nat.not_lt.mp fun lost => ?_
    obtain ⟨later, there, -⟩ :=
      app.apply_continues now change _ _ (List.getElem?_eq_getElem lost)
    exact Nat.lt_irrefl _ (List.getElem?_eq_some_iff.mp there).1
  omega

end

/-- Two changes that do the same to each tab of the session, create the same ones for it, and do the
same to its entry. -/
theorem Alike.apply {left right : App} (alike : left.Alike session right) (now : Instant)
    (first second : Change)
    (undergone : ∀ place connection, left.own? session place = some connection →
      connection.undergoAll (left.passages place now first) =
        connection.undergoAll (right.passages place now second))
    (created : (left.created now first).map (Connection.of? session) =
      (right.created now second).map (Connection.of? session))
    (sessions : (left.apply now first).shared.sessions.Agrees session
      (right.apply now second).shared.sessions) :
    (left.apply now first).Alike session (right.apply now second) := by
  have fixed := left.apply_fixed now first
  have also := right.apply_fixed now second
  have count := congrArg List.length created
  rw [List.length_map, List.length_map] at count
  refine ⟨?_, ?_, ?_, fun place => ?_, sessions⟩
  · rw [fixed.1, also.1, alike.pages]
  · rw [fixed.2, also.2, alike.config]
  · rw [apply_length, apply_length, alike.count, count]
  · by_cases inside : place < left.connections.length
    · have there : place < right.connections.length := alike.count ▸ inside
      rw [own?_apply_found left now first (List.getElem?_eq_getElem inside),
        own?_apply_found right now second (List.getElem?_eq_getElem there), ← alike.own]
      cases own : left.own? session place with
      | none => rfl
      | some connection => exact congrArg some (undergone place connection own)
    · have beyond : ¬ place < right.connections.length := alike.count ▸ inside
      rw [own?_apply_beyond left now first (by simpa using inside),
        own?_apply_beyond right now second (by simpa using beyond), created, alike.count]

theorem apply_connect_shared (app : App) (now : Instant) (id : String) (carried : Option String)
    (page : Page) : (app.apply now (.connect id carried page)).shared = app.shared := by
  cases fresh : Connection.fresh? now id carried page app.config.patchQueueCapacity with
  | none => simp [apply, connect, fresh]
  | some connection => simp [apply, connect, fresh, register_shared]

namespace Alike
variable {left right : App} (alike : left.Alike session right) (exact : left.Exact)
  (also : right.Exact)
include alike exact also

theorem place_iff {place : Nat} {connection : Connection}
    (own : left.own? session place = some connection) (id : String) :
    left.place? id = some place ↔ right.place? id = some place := by
  have mine (app : App) (there : app.own? session place = some connection) :
      app.lead? session id = some place ↔ app.place? id = some place := by
    simp [lead?, Option.filter_eq_some_iff, there]
  rw [← mine left own, ← mine right (alike.own place ▸ own), alike.lead exact also]

/-- A new tab of the session on both sides, or of other ones. -/
theorem connect (now : Instant) (id : String) {one other : Option String} (page : Page)
    (carried : one = other ∨ one ≠ some session ∧ other ≠ some session) :
    (left.apply now (.connect id one page)).Alike session
      (right.apply now (.connect id other page)) := by
  have made (carries : Option String) (app : App) :
      (app.connect now id carries page).isSome =
        (Outbox.ofCapacity? app.config.patchQueueCapacity).isSome := by
    simp [App.connect, Connection.fresh?]
  refine alike.apply now _ _ (fun place connection own => ?_) ?_ ?_
  · simp only [passages, made, alike.config, alike.place_iff exact also own]
  · simp only [App.created, Connection.fresh?, alike.config]
    cases Outbox.ofCapacity? right.config.patchQueueCapacity with
    | none => rfl
    | some queue =>
      obtain rfl | ⟨first, second⟩ := carried
      · rfl
      · simp [Connection.of?, first, second]
  · rw [apply_connect_shared, apply_connect_shared]
    exact alike.sessions

end Alike

theorem undergoAll_sweep {app : App} (exact : app.Exact) {place : Nat} {connection : Connection}
    (here : app.connections[place]? = some connection) (now instant : Instant) (ttl : Duration) :
    connection.undergoAll (app.passages place now (.sweep instant ttl)) =
      if app.place? connection.id = some place ∧ ttl < instant - connection.lastAccess then
        connection.retire
      else connection := by
  obtain ⟨later, there, removed, kept⟩ := sweep_connections exact here now instant ttl
  have undergone := apply_passages here now (.sweep instant ttl)
  rw [← Option.some.inj (there.symm.trans undergone)]
  by_cases gone : app.place? connection.id = some place ∧ ttl < instant - connection.lastAccess
  · rw [if_pos gone, removed ⟨gone.1, ?_⟩]
    rw [place?_sweep_found gone.1 here, if_pos gone.2]
  · rw [if_neg gone, kept ?_]
    rintro ⟨placed, absent⟩
    rw [place?_sweep_found placed here, if_neg fun old => gone ⟨placed, old⟩] at absent
    nomatch absent

end App

namespace Change

/-- Works in a tab. -/
def works : Change → Bool
  | .work _ _ _ => true
  | _ => false

/-- Is done to the connection at a place, or to another session. -/
def Elsewhere (session : String) (place : Nat) : Change → Prop
  | .touch other => other = place
  | .work other _ _ => other = place
  | .subscribe other => other = place
  | .poll channel => channel.place = place
  | .pop other => other = place
  | .drain other => other = place
  | .ensureSession id => id ≠ session
  | .refreshSession id => id ≠ session
  | .number _ => True
  | _ => False

end Change

namespace App
variable {session : String}

theorem shared_same {left right : App} (shared : left.shared.Agrees session right.shared)
    (config : left.config = right.config) (now : Instant) {change : Change}
    (idle : change.works = false) :
    (left.apply now change).shared.Agrees session (right.apply now change).shared := by
  obtain ⟨application, sessions⟩ := shared
  cases change with
  | work place mode deeds => nomatch idle
  | connect id carried page =>
    rw [apply_connect_shared, apply_connect_shared]
    exact ⟨application, sessions⟩
  | close id =>
    rw [apply, apply, close_shared, close_shared]
    exact ⟨application, sessions⟩
  | sweep instant ttl =>
    refine ⟨?_, ?_⟩
    · rw [apply, apply, (left.sweep_rest instant ttl).1, (right.sweep_rest instant ttl).1]
      exact application
    · simp only [apply, sweep, withSessions, sessionWindow, config]
      exact Sessions.sweep_agrees sessions instant _
  | ensureSession id => exact ⟨application, Sessions.ensure_agrees sessions now id⟩
  | refreshSession id => exact ⟨application, Sessions.refresh_agrees sessions now id⟩
  | setSession id key value => exact ⟨application, Sessions.set_agrees sessions now id key value⟩
  | refuseSession id => exact ⟨application, Sessions.refuse_agrees sessions now id⟩
  | setApplication key value => exact ⟨congrArg (·.insert key value) application, sessions⟩
  | number ids => exact ⟨application, sessions⟩
  | touch place => exact ⟨application, sessions⟩
  | pop place => exact ⟨application, sessions⟩
  | drain place => exact ⟨application, sessions⟩
  | subscribe place =>
    rw [apply, apply, subscribeAt_eq_modify, subscribeAt_eq_modify]
    exact ⟨application, sessions⟩
  | poll channel =>
    rw [apply, apply, poll_eq_modify, poll_eq_modify]
    exact ⟨application, sessions⟩

/-- What is done on both sides alike, short of work in a tab. -/
theorem Agrees.same {left right : App} (agrees : left.Agrees session right) (exact : left.Exact)
    (also : right.Exact) (now : Instant) (change : Change) (idle : change.works = false) :
    (left.apply now change).Agrees session (right.apply now change) := by
  have alike := agrees.toAlike
  have shared := shared_same agrees.shared alike.config now idle
  have placed {place : Nat} {connection : Connection}
      (own : left.own? session place = some connection) (id : String) :=
    alike.place_iff exact also own id
  refine ⟨?_, shared.application⟩
  cases change with
  | work place mode deeds => nomatch idle
  | connect id carried page => exact alike.connect exact also now id page (.inl rfl)
  | close id =>
    refine alike.apply now _ _ (fun place connection own => ?_) rfl shared.sessions
    simp only [passages, placed own]
  | sweep instant ttl =>
    refine alike.apply now _ _ (fun place connection own => ?_) rfl shared.sessions
    have there := alike.own place ▸ own
    rw [undergoAll_sweep exact (own?_eq_some_iff.mp own).1,
      undergoAll_sweep also (own?_eq_some_iff.mp there).1]
    simp only [placed own]
  | _ => exact alike.apply now _ _ (fun _ _ _ => rfl) rfl shared.sessions

theorem Agrees.sameAll {left right : App} (agrees : left.Agrees session right)
    (exact : left.Exact) (also : right.Exact) (now : Instant) {changes : List Change}
    (idle : changes.all (!·.works) = true) :
    (left.applyAll now changes).Agrees session (right.applyAll now changes) := by
  induction changes generalizing left right with
  | nil => exact agrees
  | cons change rest ih =>
    rw [List.all_cons, Bool.and_eq_true, Bool.not_eq_true'] at idle
    exact ih (agrees.same exact also now change idle.1) (exact.apply now change)
      (also.apply now change) idle.2

theorem passages_elsewhere {place other : Nat} {change : Change}
    (elsewhere : change.Elsewhere session place) (apart : place ≠ other) (now : Instant)
    (app : App) : app.passages other now change = [] := by
  have away {there : Nat} (same : there = place) : there ≠ other := same ▸ apart
  cases change with
  | touch there => exact if_neg (away elsewhere)
  | work there mode deeds => exact if_neg (away elsewhere)
  | subscribe there => exact if_neg (away elsewhere)
  | poll channel => exact if_neg (away elsewhere)
  | pop there => exact if_neg (away elsewhere)
  | drain there => exact if_neg (away elsewhere)
  | ensureSession id => rfl
  | refreshSession id => rfl
  | number ids => rfl
  | _ => exact elsewhere.elim

section
variable {app : App} {place : Nat} (foreign : app.own? session place = none)
include foreign

/-- What is done to a tab of another session is not done to a tab of this one. -/
theorem alike_elsewhere (now : Instant) {change : Change}
    (elsewhere : change.Elsewhere session place) : app.Alike session (app.apply now change) := by
  have apart {other : Nat} {connection : Connection}
      (own : app.own? session other = some connection) : place ≠ other := by
    rintro rfl
    rw [foreign] at own
    cases own
  have still : app.Alike session app := Alike.refl app
  -- Nothing is done where the ids stay as they are.
  refine still.apply now (.number app.ids) change
    (fun other connection own => ?_) ?_ ?_
  · rw [passages_elsewhere elsewhere (apart own)]
    rfl
  · cases change <;> first | rfl | exact elsewhere.elim
  · cases change with
    | work there mode deeds =>
      obtain rfl : there = place := elsewhere
      cases found : app.connections[there]? with
      | none => simpa [App.apply, work, found] using still.sessions
      | some connection =>
        have other : (connection.scene app.shared mode).session ≠ some session :=
          own?_eq_none_iff.mp foreign connection found
        simp only [App.apply, work, found]
        exact Scene.carryOutAll_apart other now deeds
    | subscribe there =>
      rw [App.apply, App.apply, subscribeAt_eq_modify]
      exact still.sessions
    | poll channel =>
      rw [App.apply, App.apply, poll_eq_modify]
      exact still.sessions
    | touch there => exact still.sessions
    | pop there => exact still.sessions
    | drain there => exact still.sessions
    | number ids => exact still.sessions
    | ensureSession id => exact Sessions.ensure_apart _ now (Ne.symm elsewhere)
    | refreshSession id => exact Sessions.refresh_apart _ now (Ne.symm elsewhere)
    | _ => exact elsewhere.elim

end

theorem alike_elsewhereAll {app : App} {place : Nat} (foreign : app.own? session place = none)
    (now : Instant) {changes : List Change}
    (elsewhere : ∀ change ∈ changes, change.Elsewhere session place) :
    app.Alike session (app.applyAll now changes) := by
  induction changes generalizing app with
  | nil => exact Alike.refl app
  | cons change rest ih =>
    have first := alike_elsewhere foreign now (elsewhere change List.mem_cons_self)
    have still := (first.own place).symm.trans foreign
    exact first.trans (ih still fun other member => elsewhere other (List.mem_cons_of_mem _ member))

/-- An id that leads to no tab of the session can be closed without it. -/
theorem alike_close {app : App} {id : String} (foreign : app.lead? session id = none)
    (now : Instant) : app.Alike session (app.apply now (.close id)) := by
  have still : app.Alike session app := Alike.refl app
  refine still.apply now (.number app.ids) (.close id)
    (fun place connection own => ?_) rfl ?_
  · have apart : app.place? id ≠ some place := by
      intro placed
      simp [lead?, placed, own] at foreign
    simp [passages, apart]
  · rw [App.apply, App.apply, close_shared]
    exact still.sessions

end App
end LiveTabs
