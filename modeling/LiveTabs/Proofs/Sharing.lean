import LiveTabs.Proofs.Reading
import LiveTabs.Proofs.Sessions
import LiveTabs.Scenario.Direct
/-!
Of all that tabs share, a tab reaches the values of the application and its own session. Whatever is
done in it comes to the same, and answers the same, where other sessions differ.
-/
namespace LiveTabs

namespace Sessions

/-- A session's entry and its refusal are the same here and there. -/
structure Agrees (session : String) (left right : Sessions) : Prop where
  entry : left.live.get? session = right.live.get? session
  refusal : left.refused.get? session = right.refused.get? session

variable {session id : String} {left middle right : Sessions}

theorem Agrees.refl (sessions : Sessions) : sessions.Agrees session sessions := ⟨rfl, rfl⟩

theorem Agrees.symm (agrees : left.Agrees session right) : right.Agrees session left :=
  ⟨agrees.entry.symm, agrees.refusal.symm⟩

theorem Agrees.trans (first : left.Agrees session middle) (later : middle.Agrees session right) :
    left.Agrees session right :=
  ⟨first.entry.trans later.entry, first.refusal.trans later.refusal⟩

theorem Agrees.isRefused (agrees : left.Agrees session right) :
    left.isRefused session = right.isRefused session := by
  rw [Sessions.isRefused, Sessions.isRefused, KeyMap.contains, KeyMap.contains, agrees.refusal]

theorem Agrees.contains (agrees : left.Agrees session right) :
    left.contains session = right.contains session := by
  rw [Sessions.contains, Sessions.contains, KeyMap.contains, KeyMap.contains, agrees.entry]

theorem Agrees.get? (agrees : left.Agrees session right) (key : String) :
    left.get? session key = right.get? session key := by
  rw [Sessions.get?, Sessions.get?, agrees.isRefused, agrees.entry]

section
variable (sessions : Sessions) (now : Instant) (other : session ≠ id)
include other

theorem ensure_apart : sessions.Agrees session (sessions.ensure now id) :=
  ⟨by rw [live_ensure, if_neg other], by simp⟩

theorem refresh_apart : sessions.Agrees session (sessions.refresh now id) :=
  ⟨by rw [live_refresh, if_neg other], by simp⟩

theorem refuse_apart : sessions.Agrees session (sessions.refuse now id) :=
  ⟨by rw [live_refuse, if_neg other], by rw [refused_refuse, if_neg other]⟩

theorem set_apart (key : String) (value : Json) :
    sessions.Agrees session (sessions.set now id key value).1 :=
  ⟨by rw [live_set, if_neg fun own => other own.2], by simp⟩

end

/-! What is done to the session itself does the same on both sides. -/

section
variable (agrees : left.Agrees session right) (now : Instant)
include agrees

/-- What leaves a session alone if it is not the session's own keeps the two sides together. -/
theorem Agrees.keep (change : Sessions → Sessions) (id : String)
    (apart : session ≠ id → ∀ sessions : Sessions, sessions.Agrees session (change sessions))
    (own : session = id → (change left).Agrees session (change right)) :
    (change left).Agrees session (change right) := by
  by_cases same : session = id
  · exact own same
  · exact (apart same left).symm.trans (agrees.trans (apart same right))

theorem ensure_agrees (id : String) :
    (left.ensure now id).Agrees session (right.ensure now id) := by
  refine agrees.keep _ id (fun other sessions => sessions.ensure_apart now other) ?_
  rintro rfl
  exact ⟨by rw [live_ensure, live_ensure, agrees.entry], by simpa using agrees.refusal⟩

theorem refresh_agrees (id : String) :
    (left.refresh now id).Agrees session (right.refresh now id) := by
  refine agrees.keep _ id (fun other sessions => sessions.refresh_apart now other) ?_
  rintro rfl
  exact ⟨by rw [live_refresh, live_refresh, agrees.entry], by simpa using agrees.refusal⟩

theorem refuse_agrees (id : String) :
    (left.refuse now id).Agrees session (right.refuse now id) := by
  refine agrees.keep _ id (fun other sessions => sessions.refuse_apart now other) ?_
  rintro rfl
  exact ⟨by rw [live_refuse, live_refuse, if_pos rfl, if_pos rfl],
    by rw [refused_refuse, refused_refuse, if_pos rfl, if_pos rfl]⟩

theorem set_accepts (key : String) (value : Json) :
    (left.set now session key value).2 = (right.set now session key value).2 := by
  rw [set, set, agrees.isRefused]
  split <;> rfl

theorem set_agrees (id key : String) (value : Json) :
    (left.set now id key value).1.Agrees session (right.set now id key value).1 := by
  refine agrees.keep (fun sessions => (sessions.set now id key value).1) id
    (fun other sessions => sessions.set_apart now other key value) ?_
  rintro rfl
  exact ⟨by rw [live_set, live_set, agrees.isRefused, agrees.entry],
    by simpa using agrees.refusal⟩

theorem sweep_agrees (ttl : Duration) : (left.sweep now ttl).Agrees session (right.sweep now ttl) :=
  ⟨by rw [sweep, sweep, KeyMap.get?_filter, KeyMap.get?_filter, agrees.entry],
    by rw [sweep, sweep, KeyMap.get?_filter, KeyMap.get?_filter, agrees.refusal]⟩

end

end Sessions

/-- The values of the application and one session are the same here and there. -/
structure Shared.Agrees (session : String) (left right : Shared) : Prop where
  application : left.application = right.application
  sessions : left.sessions.Agrees session right.sessions

namespace Scene

def sharing (scene : Scene) (shared : Shared) : Scene := { scene with shared }

/-- Two scenes of one session that differ in other sessions at most. -/
def Twins (session : String) (left right : Scene) : Prop :=
  left.session = some session ∧
    ∃ shared, right = left.sharing shared ∧ left.shared.Agrees session shared

/-- Twins, with the same answer. -/
def TwinsAnswer {α : Type} (session : String) (left right : Scene × α) : Prop :=
  left.1.Twins session right.1 ∧ left.2 = right.2

variable {session : String} {left right : Scene}

theorem Twins.shared (twins : left.Twins session right) :
    left.shared.Agrees session right.shared := by
  obtain ⟨-, shared, rfl, agrees⟩ := twins
  exact agrees

theorem Twins.alike (twins : left.Twins session right) : left.Alike right := by
  obtain ⟨own, shared, rfl, agrees⟩ := twins
  refine ⟨rfl, rfl, rfl, funext fun scope => funext fun key => ?_⟩
  cases scope with
  | connection => rfl
  | application => exact congrArg (·.get? key) agrees.application
  | session => simp [stored?, sharing, own, agrees.sessions.get? key]

-- What does not look at the shared values keeps twins, whatever these are.
theorem Twins.through {α : Type} (twins : left.Twins session right) (act : Scene → Scene × α)
    (session_kept : ∀ scene, (act scene).1.session = scene.session)
    (shared_kept : ∀ scene, (act scene).1.shared = scene.shared)
    (blind : ∀ scene shared,
      act (scene.sharing shared) = ((act scene).1.sharing shared, (act scene).2)) :
    TwinsAnswer session (act left) (act right) := by
  obtain ⟨own, shared, rfl, agrees⟩ := twins
  rw [blind]
  exact ⟨⟨(session_kept left).trans own, shared, rfl, by rw [shared_kept]; exact agrees⟩, rfl⟩

theorem offerChanged_sharing (scene : Scene) (shared : Shared) :
    (scene.sharing shared).offerChanged = scene.offerChanged.sharing shared := by
  unfold offerChanged
  by_cases none : scene.tab.changed.isEmpty = true
  · simp [sharing, none]
  · simp [sharing, none, enqueue, changedSignals]

theorem offerChanged_frame (scene : Scene) :
    scene.offerChanged.session = scene.session ∧ scene.offerChanged.shared = scene.shared := by
  unfold offerChanged
  split <;> exact ⟨rfl, rfl⟩

/-- What is done only in an action, and then to the tab and its queue. -/
theorem Twins.acting (twins : left.Twins session right) (act : Scene → Scene)
    (session_kept : ∀ scene, (act scene).session = scene.session)
    (shared_kept : ∀ scene, (act scene).shared = scene.shared)
    (blind : ∀ scene shared, act (scene.sharing shared) = (act scene).sharing shared) :
    TwinsAnswer session (if left.mayWrite then (act left, true) else (left, false))
      (if right.mayWrite then (act right, true) else (right, false)) := by
  refine twins.through (fun scene => if scene.mayWrite then (act scene, true) else (scene, false))
    (fun scene => ?_) (fun scene => ?_) fun scene shared => ?_
  · split
    · exact session_kept scene
    · rfl
  · split
    · exact shared_kept scene
    · rfl
  · have same : (scene.sharing shared).mayWrite = scene.mayWrite := rfl
    rw [same, blind]
    split <;> rfl

section
variable (twins : left.Twins session right)
include twins

theorem sendElements_twins (html : String) :
    TwinsAnswer session (left.sendElements html) (right.sendElements html) :=
  twins.acting (fun scene => (scene.enqueue (.elements html)).offerChanged)
    (fun scene => (scene.enqueue (.elements html)).offerChanged_frame.1)
    (fun scene => (scene.enqueue (.elements html)).offerChanged_frame.2)
    fun scene shared => (scene.enqueue (.elements html)).offerChanged_sharing shared

theorem sendSignals_twins : TwinsAnswer session left.sendSignals right.sendSignals :=
  twins.acting offerChanged (fun scene => scene.offerChanged_frame.1)
    (fun scene => scene.offerChanged_frame.2) offerChanged_sharing

theorem sendScript_twins (text : String) :
    TwinsAnswer session (left.sendScript text) (right.sendScript text) :=
  twins.acting (fun scene => scene.enqueue (.script text)) (fun _ => rfl) (fun _ => rfl)
    fun _ _ => rfl

theorem takeOver_twins (declared : String → Bool) (sent : KeyMap Json) :
    TwinsAnswer session (left.takeOver declared sent) (right.takeOver declared sent) :=
  twins.through (fun scene => scene.takeOver declared sent) (fun _ => rfl) (fun _ => rfl)
    fun _ _ => rfl

theorem setSignal_twins {type : StoreType} (signal : Signal type) (value : type.Carrier) :
    TwinsAnswer session (left.setSignal signal value) (right.setSignal signal value) := by
  cases encoded : type.encode value with
  | error refused =>
    simp only [setSignal, encoded, ite_self]
    exact ⟨twins, rfl⟩
  | ok written =>
    simp only [setSignal, encoded]
    exact twins.acting (fun scene => { scene with tab := { scene.tab with
      signals := scene.tab.signals.insert signal.key written
      changed := scene.tab.changed.insert signal.key () } }) (fun _ => rfl) (fun _ => rfl)
      fun _ _ => rfl

theorem store_twins (now : Instant) (scope : Scope) (key : String) (written : Json) :
    TwinsAnswer session (left.store now scope key written) (right.store now scope key written) := by
  obtain ⟨own, shared, rfl, agrees⟩ := twins
  cases scope with
  | connection => exact ⟨⟨own, shared, rfl, agrees⟩, rfl⟩
  | application =>
    exact ⟨⟨own, _, rfl, congrArg (·.insert key written) agrees.application, agrees.sessions⟩, rfl⟩
  | session =>
    have also : (left.sharing shared).session = some session := own
    simp only [store, own, also]
    exact ⟨⟨own, _, rfl, agrees.application,
      Sessions.set_agrees agrees.sessions now session key written⟩,
      Sessions.set_accepts agrees.sessions now key written⟩

theorem setState_twins (now : Instant) {type : StoreType} (state : State type)
    (value : type.Carrier) :
    TwinsAnswer session (left.setState now state value) (right.setState now state value) := by
  have same : left.mayWrite = right.mayWrite := by
    obtain ⟨-, shared, rfl, -⟩ := twins
    rfl
  unfold setState
  rw [same]
  split
  · cases type.encode value with
    | error refused => exact ⟨twins, rfl⟩
    | ok written => exact store_twins twins now state.scope state.key written
  · exact ⟨twins, rfl⟩

theorem refuseSession_twins (now : Instant) :
    (left.refuseSession now).Twins session (right.refuseSession now) := by
  obtain ⟨own, shared, rfl, agrees⟩ := twins
  have also : (left.sharing shared).session = some session := own
  simp only [refuseSession, own, also]
  exact ⟨own, _, rfl, agrees.application, Sessions.refuse_agrees agrees.sessions now session⟩

theorem assign_twins (now : Instant) (handle : AnyState) (value : Json) :
    TwinsAnswer session (left.assign now handle value) (right.assign now handle value) := by
  unfold assign
  cases handle.1.decode value with
  | none => exact ⟨twins, rfl⟩
  | some decoded =>
    have stored := setState_twins twins now handle.2 decoded
    exact ⟨stored.1, congrArg Reply.accepted stored.2⟩

theorem assignSignal_twins (handle : AnySignal) (value : Json) :
    TwinsAnswer session (left.assignSignal handle value) (right.assignSignal handle value) := by
  unfold assignSignal
  cases handle.1.decode value with
  | none => exact ⟨twins, rfl⟩
  | some decoded =>
    have stored := setSignal_twins twins handle.2 decoded
    exact ⟨stored.1, congrArg Reply.accepted stored.2⟩

theorem sync_twins (target : Component View) :
    TwinsAnswer session (left.sync target) (right.sync target) := by
  have same : left.mayWrite = right.mayWrite := by
    obtain ⟨-, shared, rfl, -⟩ := twins
    rfl
  unfold sync
  rw [same, render_alike twins.alike target]
  split
  · cases right.render target with
    | none => exact ⟨twins, rfl⟩
    | some html =>
      have sent := sendElements_twins twins html
      exact ⟨sent.1, congrArg some sent.2⟩
  · exact ⟨twins, rfl⟩

/-- A statement does the same to twins, and answers the same, or panics in both. -/
theorem act_twins (invocation : Invocation) (statement : Statement) :
    TwinsAnswer session (left.act invocation statement) (right.act invocation statement) := by
  have alike := twins.alike
  have accepted {before after : Scene × Bool} (done : TwinsAnswer session before after) :
      TwinsAnswer session (replied before) (replied after) :=
    ⟨done.1, congrArg (fun ok => some (Reply.accepted ok)) done.2⟩
  cases statement with
  | set handle value =>
    cases handle with
    | none => exact ⟨twins, rfl⟩
    | some handle =>
      simp only [act, eval_alike alike value]
      have assigned := assign_twins twins invocation.now handle (right.eval value)
      exact ⟨assigned.1, congrArg some assigned.2⟩
  | setSignal handle value =>
    cases handle with
    | none => exact ⟨twins, rfl⟩
    | some handle =>
      simp only [act, eval_alike alike value]
      have assigned := assignSignal_twins twins handle (right.eval value)
      exact ⟨assigned.1, congrArg some assigned.2⟩
  | sync =>
    have synced := sync_twins twins invocation.target
    exact ⟨synced.1, congrArg (Option.map Reply.accepted) synced.2⟩
  | syncSignals => exact accepted (sendSignals_twins twins)
  | fragment value =>
    simp only [act, eval_alike alike value]
    exact accepted (sendElements_twins twins _)
  | fragmentBytes body => exact accepted (sendElements_twins twins _)
  | script value =>
    simp only [act, eval_alike alike value]
    exact accepted (sendScript_twins twins _)
  | refuseSession => exact ⟨refuseSession_twins twins invocation.now, rfl⟩
  | log value =>
    simp only [act, eval_alike alike value]
    exact ⟨twins, rfl⟩
  | identify =>
    simp only [act, alike.connection, alike.session]
    exact ⟨twins, rfl⟩
  | panic => exact ⟨twins, rfl⟩

theorem act_twins_eq (invocation : Invocation) (statement : Statement) :
    ∃ next next' reply, left.act invocation statement = (next, reply) ∧
      right.act invocation statement = (next', reply) ∧ next.Twins session next' := by
  obtain ⟨moved, answered⟩ := act_twins twins invocation statement
  exact ⟨_, _, _, rfl, Prod.ext rfl answered.symm, moved⟩

end

theorem perform_twins (twins : left.Twins session right) (invocation : Invocation)
    (handler : Handler) :
    let first := left.perform invocation handler
    let second := right.perform invocation handler
    first.scene.Twins session second.scene ∧ first.notes = second.notes ∧
      first.completed = second.completed := by
  induction handler generalizing left right with
  | nil => exact ⟨twins, rfl, rfl⟩
  | cons statement rest ih =>
    obtain ⟨next, next', reply, acted, again, moved⟩ := act_twins_eq twins invocation statement
    simp only [perform, acted, again]
    cases reply with
    | none => exact ⟨moved, rfl, rfl⟩
    | some reply =>
      obtain ⟨scenes, notes, completed⟩ := ih moved
      exact ⟨scenes, congrArg (reply.notes ++ ·) notes, completed⟩

theorem direct_twins (twins : left.Twins session right) (declared : String → Bool)
    (invocation : Invocation) (statement : DirectStatement) :
    TwinsAnswer session (left.direct declared invocation statement)
      (right.direct declared invocation statement) := by
  cases statement with
  | takeOver values =>
    simp only [direct, eval_alike twins.alike values]
    have taken := takeOver_twins twins declared ((right.eval values).members?.getD KeyMap.empty)
    exact ⟨taken.1, congrArg DirectReply.taken taken.2⟩
  | perform statement =>
    obtain ⟨next, next', reply, acted, again, moved⟩ := act_twins_eq twins invocation statement
    simp only [direct, acted, again]
    cases reply with
    | none => exact ⟨moved, rfl⟩
    | some reply => exact ⟨moved, rfl⟩

theorem directAll_twins (twins : left.Twins session right) (declared : String → Bool)
    (invocation : Invocation) (body : List DirectStatement) :
    TwinsAnswer session (left.directAll declared invocation body)
      (right.directAll declared invocation body) := by
  induction body generalizing left right with
  | nil => exact ⟨twins, rfl⟩
  | cons statement rest ih =>
    obtain ⟨first, reply⟩ := direct_twins twins declared invocation statement
    obtain ⟨others, replies⟩ := ih first
    exact ⟨others, List.cons_eq_cons.mpr ⟨reply, replies⟩⟩

end Scene

namespace Connection

/-- A connection that carries the session, in a mode, with values that agree. -/
theorem scene_twins {session : String} {connection : Connection}
    (own : connection.session = some session) {left right : Shared}
    (agrees : left.Agrees session right) (mode : Mode) :
    (connection.scene left mode).Twins session (connection.scene right mode) :=
  ⟨own, right, rfl, agrees⟩

theorem resume_twins (connection : Connection) {session : String} {left right : Scene}
    (twins : left.Twins session right) : connection.resume left = connection.resume right := by
  obtain ⟨-, shared, rfl, -⟩ := twins
  rfl

section
variable {session : String} {connection : Connection}
  (own : connection.session = some session) {left right : Shared}
  (agrees : left.Agrees session right)
include own agrees

theorem direct_agrees (now : Instant) (mode : Mode) (action : String)
    (body : List DirectStatement) :
    let first := connection.direct left now mode action body
    let second := connection.direct right now mode action body
    first.1 = second.1 ∧ first.2.1.Agrees session second.2.1 ∧ first.2.2 = second.2.2 := by
  obtain ⟨scenes, replies⟩ := Scene.directAll_twins (scene_twins own agrees mode)
    connection.page.knowsSignal (Page.invocation connection.page action now) body
  exact ⟨connection.resume_twins scenes, scenes.shared, replies⟩

theorem pageMarkup_agrees : connection.pageMarkup left = connection.pageMarkup right :=
  Scene.render_alike (scene_twins own agrees connection.tab.mode).alike connection.page.root

end
end Connection
end LiveTabs
