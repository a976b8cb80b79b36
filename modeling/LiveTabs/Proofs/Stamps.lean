import Mathlib.Data.List.Induction
import LiveTabs.Proofs.Logout
import LiveTabs.Proofs.Refreshes
/-!
When a connection and a session were refreshed last, and a session refused last, as the history of a
run has it. That is the instant of the stamp: where time does not run backwards, only what refreshes
changes a stamp.
-/
namespace LiveTabs

namespace Connection

theorem undergo_lastAccess (connection : Connection) {passage : Passage}
    (others : ∀ now, passage ≠ .move (.refresh now)) :
    (connection.undergo passage).lastAccess = connection.lastAccess := by
  by_cases opens : passage = .move .subscribe
  · rw [opens, undergo, Connection.move, subscribe]
    split <;> rfl
  · by_cases shuts : passage = .move .retire
    · rw [shuts]
      rfl
    · obtain ⟨tab, queue, same⟩ := connection.undergo_inside opens shuts others
      rw [same]

theorem undergoAll_lastAccess (connection : Connection) {passages : List Passage}
    (others : ∀ now, .move (.refresh now) ∉ passages) :
    (connection.undergoAll passages).lastAccess = connection.lastAccess := by
  induction passages generalizing connection with
  | nil => rfl
  | cons passage rest ih =>
    rw [undergoAll_cons, ih _ fun now member => others now (List.mem_cons_of_mem _ member)]
    exact connection.undergo_lastAccess fun now same => others now (same ▸ List.mem_cons_self)

end Connection

namespace App

theorem refresh_not_mem_passages (app : App) {place : Nat} {change : Change}
    (other : change ≠ .touch place) (now instant : Instant) :
    .move (.refresh instant) ∉ app.passages place now change := by
  intro member
  obtain ⟨touches, -⟩ | ⟨-, same⟩ | ⟨-, -, apart⟩ := passages_cases member
  · exact other touches
  · cases same
  · exact apart instant rfl

end App

/-- What is done at an instant makes of a stamp, whether it refreshes or not. -/
structure Restamps (refreshes : Prop) (now before after : Instant) : Prop where
  renewed : refreshes → after = max before now
  kept : ¬ refreshes → after = before

namespace Restamps
variable {refreshes others : Prop} {now first second third : Instant}

theorem trans (early : Restamps refreshes now first second)
    (late : Restamps others now second third) : Restamps (refreshes ∨ others) now first third := by
  constructor
  · intro either
    by_cases before : refreshes
    · have middle := early.renewed before
      by_cases after : others
      · rw [late.renewed after, middle, Nat.max_assoc, Nat.max_self]
      · rw [late.kept after, middle]
    · rw [late.renewed (either.resolve_left before), early.kept before]
  · intro neither
    rw [not_or] at neither
    rw [late.kept neither.2, early.kept neither.1]

theorem of_iff (same : others ↔ refreshes) (stamped : Restamps refreshes now first second) :
    Restamps others now first second :=
  ⟨fun other => stamped.renewed (same.mp other), fun none => stamped.kept (mt same.mpr none)⟩

end Restamps

namespace App

theorem apply_lastAccess {app : App} {place : Nat} {connection : Connection}
    (here : app.connections[place]? = some connection) (now : Instant) (change : Change) :
    ∃ later, (app.apply now change).connections[place]? = some later ∧
      Restamps (change = .touch place) now connection.lastAccess later.lastAccess := by
  refine ⟨_, apply_passages here now change, ?_, fun other => ?_⟩
  · rintro rfl
    simp [passages, Connection.undergo, Connection.move, Connection.refresh]
  · exact connection.undergoAll_lastAccess (app.refresh_not_mem_passages other now)

theorem applyAll_lastAccess {app : App} {place : Nat} {connection : Connection}
    (here : app.connections[place]? = some connection) (now : Instant) (changes : List Change) :
    ∃ later, (app.applyAll now changes).connections[place]? = some later ∧
      Restamps (.touch place ∈ changes) now connection.lastAccess later.lastAccess := by
  induction changes generalizing app connection with
  | nil => exact ⟨connection, here, nofun, fun _ => rfl⟩
  | cons change rest ih =>
    obtain ⟨middle, there, early⟩ := apply_lastAccess here now change
    obtain ⟨later, last, late⟩ := ih there
    exact ⟨later, last, (early.trans late).of_iff (by rw [List.mem_cons, eq_comm])⟩

/-- A connection that changes create is stamped with their instant. -/
theorem applyAll_created {app : App} {place : Nat} (none : app.connections[place]? = none)
    {now : Instant} {changes : List Change} {later : Connection}
    (there : (app.applyAll now changes).connections[place]? = some later) :
    later.lastAccess = now := by
  induction changes generalizing app with
  | nil =>
    rw [applyAll, List.foldl_nil, none] at there
    cases there
  | cons change rest ih =>
    cases created : (app.apply now change).connections[place]? with
    | none => exact ih created there
    | some connection =>
      obtain ⟨id, session, page, -, -, fresh⟩ := created_of_new none created
      have begun : connection.lastAccess = now := by rw [Connection.fresh?_eq fresh]
      obtain ⟨same, standing, renewed, kept⟩ := applyAll_lastAccess created now rest
      obtain rfl : same = later := Option.some.inj (standing.symm.trans there)
      by_cases touched : .touch place ∈ rest
      · rw [renewed touched, begun, Nat.max_self]
      · rw [kept touched, begun]

end App

/-- What becomes of a session's entry where none is entered again after it was dropped. An entry that
is new is stamped with the instant. -/
structure Sessions.Ages (id : String) (now : Instant) (refreshes : Prop)
    (before after : Sessions) : Prop where
  restamps : ∀ entry later, before.live.get? id = some entry → after.live.get? id = some later →
    Restamps refreshes now entry.lastAccess later.lastAccess
  entered : ∀ later, before.live.get? id = none → after.live.get? id = some later →
    later.lastAccess = now
  dropped : ∀ entry, before.live.get? id = some entry → after.live.get? id = none →
    after.isRefused id = true
  absent : before.isRefused id = true → after.isRefused id = true ∧
    (before.live.get? id = none → after.live.get? id = none)

namespace Sessions
variable {id : String} {now : Instant} {refreshes others : Prop} {first second third : Sessions}

theorem Ages.trans (early : Ages id now refreshes first second)
    (late : Ages id now others second third) : Ages id now (refreshes ∨ others) first third := by
  refine ⟨fun entry later here there => ?_, fun later none there => ?_,
    fun entry here none => ?_, fun refused => ?_⟩
  · cases middle : second.live.get? id with
    | none =>
      have gone := (late.absent (early.dropped entry here middle)).2 middle
      rw [gone] at there
      cases there
    | some between =>
      exact (early.restamps entry between here middle).trans
        (late.restamps between later middle there)
  · cases middle : second.live.get? id with
    | none => exact late.entered later middle there
    | some between =>
      have begun := early.entered between none middle
      have stamped := late.restamps between later middle there
      by_cases again : others
      · rw [stamped.renewed again, begun, Nat.max_self]
      · rw [stamped.kept again, begun]
  · cases middle : second.live.get? id with
    | none => exact (late.absent (early.dropped entry here middle)).1
    | some between => exact late.dropped between middle none
  · obtain ⟨still, gone⟩ := early.absent refused
    obtain ⟨last, after⟩ := late.absent still
    exact ⟨last, fun none => after (gone none)⟩

theorem Ages.of_iff (same : others ↔ refreshes) (aged : Ages id now refreshes first second) :
    Ages id now others first second :=
  ⟨fun entry later here there => (aged.restamps entry later here there).of_iff same, aged.entered,
    aged.dropped, aged.absent⟩

/-- An entry that is there or not as before, with the same stamp, has not aged. -/
theorem ages_of_same (stamp : (second.live.get? id).map (·.lastAccess) =
      (first.live.get? id).map (·.lastAccess))
    (refused : first.isRefused id = true → second.isRefused id = true) :
    Ages id now False first second := by
  refine ⟨fun entry later here there => ?_, fun later none there => ?_, fun entry here none => ?_,
    fun before => ⟨refused before, fun none => ?_⟩⟩
  · rw [here, there] at stamp
    exact ⟨False.elim, fun _ => Option.some.inj stamp⟩
  · rw [none, there] at stamp
    cases stamp
  · rw [none, here] at stamp
    cases stamp
  · rw [none] at stamp
    exact Option.map_eq_none_iff.mp stamp

theorem ages_refresh (sessions : Sessions) (id other : String) (now : Instant) :
    Ages id now (other = id) sessions (sessions.refresh now other) := by
  have refused : (sessions.refresh now other).isRefused id = sessions.isRefused id := by
    simp [isRefused]
  by_cases same : other = id
  · subst same
    have after := sessions.live_refresh now other other
    rw [if_pos rfl] at after
    refine ⟨fun entry later here there => ⟨fun _ => ?_, absurd rfl⟩, fun later none there => ?_,
      fun entry here none => ?_, fun before => ⟨refused.trans before, fun none => ?_⟩⟩
    · rw [after, here] at there
      rw [← Option.some.inj there]
    · rw [after, none] at there
      cases there
    · rw [after, here] at none
      cases none
    · rw [after, none]
      rfl
  · refine (ages_of_same ?_ refused.trans).of_iff (iff_false_intro same)
    rw [live_refresh, if_neg (Ne.symm same)]

theorem ages_set (sessions : Sessions) (id other key : String) (now : Instant) (value : Json) :
    Ages id now False sessions (sessions.set now other key value).1 := by
  have refusals : (sessions.set now other key value).1.isRefused id = sessions.isRefused id := by
    simp [isRefused]
  by_cases written : sessions.isRefused other = false ∧ id = other
  · obtain ⟨admitted, rfl⟩ := written
    have after := sessions.live_set now id key value id
    rw [if_pos ⟨admitted, rfl⟩] at after
    cases found : sessions.live.get? id with
    | some entry =>
      refine ages_of_same ?_ refusals.trans
      rw [after, found]
      rfl
    | none =>
      rw [found] at after
      refine ⟨fun entry later here => ?_, fun later _ there => ?_, fun entry here => ?_, ?_⟩
      · rw [found] at here
        cases here
      · rw [← Option.some.inj (after.symm.trans there)]
        rfl
      · rw [found] at here
        cases here
      · rw [admitted]
        exact fun refused => absurd refused Bool.false_ne_true
  · refine ages_of_same ?_ refusals.trans
    rw [live_set, if_neg written]

theorem ages_refuse (sessions : Sessions) (id other : String) (now : Instant) :
    Ages id now False sessions (sessions.refuse now other) := by
  by_cases same : other = id
  · subst same
    refine ⟨fun entry later _ there => ?_, fun later _ there => ?_, ?_, ?_⟩
    · simp [refuse] at there
    · simp [refuse] at there
    · simp [refuse, isRefused]
    · simp [refuse, isRefused]
  · refine ages_of_same ?_ ?_
    · simp [refuse, Ne.symm same]
    · simp [refuse, isRefused, Ne.symm same]

end Sessions

theorem Scene.carryOutAll_ages (id : String) (now : Instant) (scene : Scene) (deeds : List Deed) :
    Sessions.Ages id now False scene.shared.sessions
      (scene.carryOutAll now deeds).shared.sessions := by
  induction deeds generalizing scene with
  | nil => exact Sessions.ages_of_same rfl fun same => same
  | cons deed rest ih =>
    have first : Sessions.Ages id now False scene.shared.sessions
        (scene.carryOut now deed).shared.sessions := by
      obtain same | ⟨other, -, ⟨key, value, stored⟩ | refused⟩ := scene.carryOut_sessions now deed
      · rw [same]
        exact Sessions.ages_of_same rfl fun same => same
      · rw [stored]
        exact Sessions.ages_set _ id other key now value
      · rw [refused]
        exact Sessions.ages_refuse _ id other now
    exact (first.trans (ih _)).of_iff (or_self False).symm.to_iff

namespace App

/-- A change that neither enters a session nor sweeps refreshes one if it says so. -/
theorem apply_ages (id : String) (app : App) (now : Instant) {change : Change}
    (plain : change.plain = true) :
    Sessions.Ages id now (change = .refreshSession id) app.shared.sessions
      (app.apply now change).shared.sessions := by
  have same {after : App} (kept : after.shared.sessions = app.shared.sessions) :
      Sessions.Ages id now False app.shared.sessions after.shared.sessions := by
    rw [kept]
    exact Sessions.ages_of_same rfl fun same => same
  cases change with
  | ensureSession other => cases plain
  | sweep instant ttl => cases plain
  | refreshSession other =>
    exact (Sessions.ages_refresh _ id other now).of_iff (by simp)
  | setSession other key value =>
    exact (Sessions.ages_set _ id other key now value).of_iff (by simp)
  | refuseSession other => exact (Sessions.ages_refuse _ id other now).of_iff (by simp)
  | work place mode deeds =>
    have idle : Change.work place mode deeds = .refreshSession id ↔ False := by simp
    refine Sessions.Ages.of_iff idle ?_
    cases found : app.connections[place]? with
    | none => exact same (by simp [apply, work, found])
    | some connection =>
      simp only [apply, work, found]
      exact Scene.carryOutAll_ages id now (connection.scene app.shared mode) deeds
  | connect other session page =>
    refine (same ?_).of_iff (by simp)
    cases fresh : Connection.fresh? now other session page app.config.patchQueueCapacity with
    | none => simp [apply, connect, fresh]
    | some connection => simp [apply, connect, fresh, register_shared]
  | subscribe place =>
    refine (same ?_).of_iff (by simp)
    rw [apply, subscribeAt_eq_modify]
    rfl
  | poll channel =>
    refine (same ?_).of_iff (by simp)
    rw [apply, poll_eq_modify]
    rfl
  | close other => exact (same (congrArg (·.sessions) (app.close_shared other))).of_iff (by simp)
  | setApplication key value => exact (same rfl).of_iff (by simp)
  | number ids => exact (same rfl).of_iff (by simp)
  | touch place => exact (same rfl).of_iff (by simp)
  | pop place => exact (same rfl).of_iff (by simp)
  | drain place => exact (same rfl).of_iff (by simp)

theorem applyAll_ages (id : String) (app : App) (now : Instant) {changes : List Change}
    (plain : changes.all Change.plain = true) :
    Sessions.Ages id now (.refreshSession id ∈ changes) app.shared.sessions
      (app.applyAll now changes).shared.sessions := by
  induction changes generalizing app with
  | nil => exact (Sessions.ages_of_same rfl fun same => same).of_iff (by simp)
  | cons change rest ih =>
    rw [List.all_cons, Bool.and_eq_true] at plain
    exact ((app.apply_ages id now plain.1).trans (ih _ plain.2)).of_iff
      (by rw [List.mem_cons, eq_comm])

end App

namespace Sessions

/-- What becomes of a session's entry that may be entered first. -/
theorem Ages.after_ensure {id other : String} {now : Instant} {refreshes : Prop}
    {first third : Sessions} (aged : Ages id now refreshes (first.ensure now other) third) :
    (∀ entry later, first.live.get? id = some entry → third.live.get? id = some later →
      Restamps refreshes now entry.lastAccess later.lastAccess) ∧
    ∀ later, first.live.get? id = none → third.live.get? id = some later →
      later.lastAccess = now := by
  cases known : first.contains other with
  | true =>
    have same : first.ensure now other = first := by simp [ensure, known]
    rw [same] at aged
    exact ⟨aged.restamps, aged.entered⟩
  | false =>
    have absent := (KeyMap.contains_eq_false_iff _ _).mp known
    by_cases same : id = other
    · subst same
      have begun : (first.ensure now id).live.get? id = some ⟨KeyMap.empty, now⟩ := by
        simp [ensure, known]
      refine ⟨fun entry later here => ?_, fun later _ there => ?_⟩
      · rw [absent] at here
        cases here
      · have stamped := aged.restamps _ later begun there
        by_cases again : refreshes
        · rw [stamped.renewed again, Nat.max_self]
        · exact stamped.kept again
    · have kept : (first.ensure now other).live.get? id = first.live.get? id := by
        simp [ensure, known, same]
      exact ⟨fun entry later here => aged.restamps entry later (kept.trans here),
        fun later none => aged.entered later (kept.trans none)⟩

end Sessions

theorem App.sessionChanges_cases (app : App) (now : Instant) (cookie : Option String) :
    ∃ entered others, app.sessionChanges now cookie = .ensureSession entered :: others ∧
      others.all Change.plain = true := by
  refine ⟨_, _, rfl, ?_⟩
  split <;> rfl

/-- A refusal that stands is one of the history, or it stood before and there is none. -/
theorem RefusalEvent.stands_since {id : String} {window : Duration} {since : Option Instant}
    {events : List RefusalEvent} {instant : Instant}
    (stands : events.foldl (leaves id window) since = some instant) :
    .refused id instant ∈ events ∨
      (∀ other, .refused id other ∉ events) ∧ since = some instant := by
  induction events generalizing since with
  | nil => exact .inr ⟨fun _ => List.not_mem_nil, stands⟩
  | cons event rest ih =>
    rcases ih stands with later | ⟨none, first⟩
    · exact .inl (List.mem_cons_of_mem event later)
    · cases event with
      | refused other at_instant =>
        by_cases same : id = other
        · subst same
          rw [leaves, if_pos rfl, Option.some.injEq] at first
          rw [first]
          exact .inl List.mem_cons_self
        · rw [leaves, if_neg same] at first
          exact .inr ⟨by simp [none, same], first⟩
      | swept sweeps =>
        exact .inr ⟨by simp [none], (Option.filter_eq_some_iff.mp first).1⟩

namespace Scenario

theorem step_ages {scenario : Scenario} (exact : scenario.app.Exact) (id : String) (now : Instant)
    (step : Step) :
    let before := scenario.app.shared.sessions
    let after := (scenario.step now step).scenario.app.shared.sessions
    (∀ entry later, before.live.get? id = some entry → after.live.get? id = some later →
      Restamps (scenario.Renews id now step) now entry.lastAccess later.lastAccess) ∧
    ∀ later, before.live.get? id = none → after.live.get? id = some later →
      later.lastAccess = now := by
  dsimp only
  have renews : .refreshSession id ∈ scenario.changes now step ↔ scenario.Renews id now step :=
    refreshSession_mem_iff exact
  have arranged := (scenario.changes_occasion now step).arranged
  rw [step_changes]
  generalize scenario.changes now step = changes at renews arranged
  cases arranged with
  | plain all =>
    have aged := (scenario.app.applyAll_ages id now all).of_iff renews.symm
    exact ⟨aged.restamps, aged.entered⟩
  | @resolved cookie rest all =>
    obtain ⟨entered, others, split, plain⟩ := scenario.app.sessionChanges_cases now cookie
    rw [split, List.cons_append] at renews ⊢
    have every : (others ++ rest).all Change.plain = true := by
      rw [List.all_append, plain, all]
      rfl
    have aged := (scenario.app.apply now (.ensureSession entered)).applyAll_ages id now every
    refine (aged.of_iff (renews.symm.trans ?_)).after_ensure
    simp
  | swept instant ttl due =>
    have idle : ¬ scenario.Renews id now step := fun renewed => by simpa using renews.mpr renewed
    have kept : (scenario.app.applyAll now [.sweep instant ttl]).shared.sessions.live.get? id =
        (scenario.app.shared.sessions.live.get? id).filter
          fun entry => !expired instant entry.lastAccess scenario.app.sessionWindow :=
      KeyMap.get?_filter _ _ id
    refine ⟨fun entry later here there => ⟨fun renewed => absurd renewed idle, fun _ => ?_⟩,
      fun later none there => ?_⟩
    · rw [kept, here] at there
      rw [Option.some.inj (Option.filter_eq_some_iff.mp there).1]
    · rw [kept, none] at there
      cases there

theorem reached_append (scenario : Scenario) (steps later : List (Instant × Step)) :
    scenario.reached (steps ++ later) = (scenario.reached steps).reached later := by
  simp [reached]

/-- The last step of a run at which something happens comes at an instant. -/
def LastAt (happens : Scenario → Instant → Step → Prop) (scenario : Scenario)
    (steps : List (Instant × Step)) (instant : Instant) : Prop :=
  ∃ past step later, steps = past ++ (instant, step) :: later ∧
    happens (scenario.reached past) instant step ∧
    ∀ before other after, later = before ++ other :: after →
      ¬ happens (scenario.reached (past ++ (instant, step) :: before)) other.1 other.2

section
variable {happens : Scenario → Instant → Step → Prop} {scenario : Scenario}
  {steps : List (Instant × Step)} {now instant : Instant} {step : Step}

theorem lastAt_now (happened : happens (scenario.reached steps) now step) :
    scenario.LastAt happens (steps ++ [(now, step)]) now :=
  ⟨steps, step, [], rfl, happened, fun before other after split => by simp at split⟩

theorem LastAt.append (last : scenario.LastAt happens steps instant)
    (idle : ¬ happens (scenario.reached steps) now step) :
    scenario.LastAt happens (steps ++ [(now, step)]) instant := by
  obtain ⟨past, latest, later, rfl, happened, none⟩ := last
  refine ⟨past, latest, later ++ [(now, step)], by simp, happened,
    fun before other after split => ?_⟩
  rcases List.eq_nil_or_concat after with rfl | ⟨others, final, rfl⟩
  · obtain ⟨rfl, same⟩ := List.append_inj' split rfl
    obtain rfl := (List.cons.inj same).1
    exact idle
  · rw [List.concat_eq_append, ← List.cons_append, ← List.append_assoc] at split
    obtain ⟨rfl, -⟩ := List.append_inj' split rfl
    exact none before other others rfl

theorem LastAt.mem (last : scenario.LastAt happens steps instant) :
    ∃ step, (instant, step) ∈ steps := by
  obtain ⟨past, latest, later, rfl, -⟩ := last
  exact ⟨latest, by simp⟩

end

/-- A stamp that only what happens renews, and that never runs backwards, is the instant at which it
happened last. -/
theorem stamp_lastAt (kept : App → Prop) (stamp : App → Option Instant)
    {happens : Scenario → Instant → Step → Prop}
    (keeps : ∀ now app change, kept app → kept (App.apply now app change))
    (stamps : ∀ (scenario : Scenario) now step later, kept scenario.app →
      stamp (scenario.step now step).scenario.app = some later →
        happens scenario now step ∧
            (later = now ∨ ∃ earlier, stamp scenario.app = some earlier ∧ later = max earlier now) ∨
          ¬ happens scenario now step ∧ stamp scenario.app = some later)
    {scenario : Scenario} (start : kept scenario.app) (unstamped : stamp scenario.app = none)
    {steps : List (Instant × Step)} (ordered : steps.Pairwise fun first later => first.1 ≤ later.1)
    {instant : Instant} (stamped : stamp (scenario.reached steps).app = some instant) :
    scenario.LastAt happens steps instant := by
  induction steps using List.reverseRecOn generalizing instant with
  | nil => exact absurd (unstamped.symm.trans stamped) nofun
  | append_singleton past last ih =>
    obtain ⟨now, step⟩ := last
    obtain ⟨before, -, bounded⟩ := List.pairwise_append.mp ordered
    have kept := reached_induction keeps scenario past start
    rw [reached_append] at stamped
    rcases stamps _ now step instant kept stamped with ⟨happened, renewed⟩ | ⟨idle, same⟩
    · have latest : instant = now := by
        rcases renewed with fresh | ⟨earlier, there, rfl⟩
        · exact fresh
        · obtain ⟨other, listed⟩ := (ih before there).mem
          exact Nat.max_eq_right (bounded _ listed _ List.mem_cons_self)
      rw [latest]
      exact lastAt_now happened
    · exact (ih before same).append idle

/-- A connection comes to stand at a place, or is found there and refreshed. -/
def RefreshesAt (place : Nat) (scenario : Scenario) (now : Instant) (step : Step) : Prop :=
  (scenario.app.connections[place]? = none ∧ ∃ connection,
    (scenario.step now step).scenario.app.connections[place]? = some connection) ∨
  scenario.Touches place step

/-- A session is entered, or is there and renewed. -/
def RefreshesSession (id : String) (scenario : Scenario) (now : Instant) (step : Step) : Prop :=
  (scenario.app.shared.sessions.contains id = false ∧
    (scenario.step now step).scenario.app.shared.sessions.contains id = true) ∨
  scenario.app.shared.sessions.contains id = true ∧ scenario.Renews id now step

/-- A session is refused, by itself or by a handler in one of its tabs. -/
def Refuses (id : String) (scenario : Scenario) (now : Instant) (step : Step) : Prop :=
  .refused id now ∈ scenario.app.along now (App.refusals now) (scenario.changes now step)

section
variable {scenario : Scenario} {steps : List (Instant × Step)}
  (ordered : steps.Pairwise fun first later => first.1 ≤ later.1)
include ordered

theorem lastAccess_lastAt (exact : scenario.app.Exact) {place : Nat}
    (empty : scenario.app.connections[place]? = none) {connection : Connection}
    (here : (scenario.reached steps).app.connections[place]? = some connection) :
    scenario.LastAt (RefreshesAt place) steps connection.lastAccess := by
  refine stamp_lastAt App.Exact (fun app => (app.connections[place]?).map (·.lastAccess))
    (fun now app change before => before.apply now change) ?_ exact (by simp [empty]) ordered
    (by simp [here])
  intro scenario now step later exact stamped
  obtain ⟨after, there, rfl⟩ := Option.map_eq_some_iff.mp stamped
  cases before : scenario.app.connections[place]? with
  | none =>
    refine .inl ⟨.inl ⟨before, after, there⟩, .inl ?_⟩
    rw [step_changes] at there
    exact App.applyAll_created before there
  | some found =>
    obtain ⟨same, stands, renewed, kept⟩ :=
      App.applyAll_lastAccess before now (scenario.changes now step)
    rw [← step_changes] at stands
    obtain rfl : same = after := Option.some.inj (stands.symm.trans there)
    rw [touch_mem_iff exact] at renewed kept
    by_cases touched : scenario.Touches place step
    · exact .inl ⟨.inr touched, .inr ⟨_, rfl, renewed touched⟩⟩
    · refine .inr ⟨?_, by rw [kept touched]; rfl⟩
      rintro (⟨absent, -⟩ | again)
      · rw [before] at absent
        cases absent
      · exact touched again

theorem session_lastAt (exact : scenario.app.Exact) {id : String}
    (empty : scenario.app.shared.sessions.live.get? id = none) {entry : Session}
    (here : (scenario.reached steps).app.shared.sessions.live.get? id = some entry) :
    scenario.LastAt (RefreshesSession id) steps entry.lastAccess := by
  refine stamp_lastAt App.Exact
    (fun app => (app.shared.sessions.live.get? id).map (·.lastAccess))
    (fun now app change before => before.apply now change) ?_ exact (by simp [empty]) ordered
    (by simp [here])
  intro scenario now step later exact stamped
  obtain ⟨after, there, rfl⟩ := Option.map_eq_some_iff.mp stamped
  obtain ⟨restamps, entered⟩ := step_ages exact id now step
  have present : (scenario.step now step).scenario.app.shared.sessions.contains id = true :=
    (KeyMap.contains_iff _ _).mpr ⟨after, there⟩
  cases before : scenario.app.shared.sessions.live.get? id with
  | none =>
    have absent := (KeyMap.contains_eq_false_iff _ _).mpr before
    exact .inl ⟨.inl ⟨absent, present⟩, .inl (entered after before there)⟩
  | some found =>
    have known : scenario.app.shared.sessions.contains id = true :=
      (KeyMap.contains_iff _ _).mpr ⟨found, before⟩
    obtain ⟨renewed, kept⟩ := restamps found after before there
    by_cases renews : scenario.Renews id now step
    · exact .inl ⟨.inr ⟨known, renews⟩, .inr ⟨_, rfl, renewed renews⟩⟩
    · refine .inr ⟨?_, by rw [kept renews]; rfl⟩
      rintro (⟨absent, -⟩ | ⟨-, again⟩)
      · rw [known] at absent
        cases absent
      · exact renews again

theorem refusal_lastAt {id : String} (empty : scenario.app.refusedSince? id = none)
    {since : Instant} (here : (scenario.reached steps).app.refusedSince? id = some since) :
    scenario.LastAt (Refuses id) steps since := by
  refine stamp_lastAt (fun _ => True) (fun app => app.refusedSince? id)
    (fun _ _ _ _ => trivial) ?_ trivial empty ordered here
  intro scenario now step later _ stamped
  have folded : (scenario.step now step).scenario.app.refusedSince? id = _ :=
    scenario.reached_refused [(now, step)] id
  rw [stamped, along, along, List.append_nil] at folded
  rcases RefusalEvent.stands_since folded.symm with listed | ⟨none, same⟩
  · obtain ⟨before, change, -, member⟩ := App.mem_along listed
    obtain rfl : later = now := by
      obtain refused | ⟨ttl, -, swept⟩ := App.refusals_cases member
      · exact refused
      · cases swept
    exact .inl ⟨listed, .inl rfl⟩
  · exact .inr ⟨none now, same⟩

end

end Scenario
end LiveTabs
