import Mathlib.Data.List.Infix
import LiveTabs.Proofs.Occasions
import LiveTabs.Proofs.Refusals
import LiveTabs.Proofs.ScopedStore
import LiveTabs.Proofs.SetCookie
/-!
Logging out. Until a sweep comes later than the session window after the latest refusal, a refused
session has no values, none can be written to it, and its cookie is worth nothing. A cookie from
before the logout is dead by the time that the refusal is forgotten.
-/
namespace LiveTabs

/-- How the changes of a step are arranged: it may resolve a cookie first, and a sweep stands alone. -/
inductive Change.Arranged (app : App) (now : Instant) (step : Step) : List Change → Prop
  | plain {rest : List Change} (all : rest.all Change.plain = true) : Arranged app now step rest
  | resolved (cookie : Option String) {rest : List Change} (all : rest.all Change.plain = true) :
    Arranged app now step (app.sessionChanges now cookie ++ rest)
  | swept (instant : Instant) (ttl : Duration) (due : step = .sweep instant ttl ∨ instant = now) :
    Arranged app now step [.sweep instant ttl]

namespace Change

theorem plain_of_onTab {changes : List Change} (tabs : changes.all onTab = true) :
    changes.all plain = true := by
  rw [List.all_eq_true] at tabs ⊢
  intro change member
  cases change <;> first | rfl | exact tabs _ member

theorem plain_of_single {change : Change} (alone : change.single = true) :
    change.plain = true := by
  cases change <;> first | rfl | exact alone

end Change

theorem App.pageChanges_arranged (app : App) (now : Instant) (route : String)
    (cookie : Option String) (step : Step) :
    Change.Arranged app now step (app.pageChanges now route cookie) := by
  unfold pageChanges
  cases app.pages.get? route with
  | none => exact .plain rfl
  | some page =>
    dsimp only
    rw [List.append_assoc]
    refine .resolved cookie ?_
    split <;> rfl

theorem Change.Occasion.arranged {app : App} {now : Instant} {step : Step} {changes : List Change}
    (occasion : Occasion app now step changes) : Arranged app now step changes := by
  cases occasion with
  | tabs all => exact .plain (plain_of_onTab all)
  | page route cookie => exact app.pageChanges_arranged now route cookie step
  | resolved cookie =>
    have alone : Arranged app now step (app.sessionChanges now cookie ++ []) := .resolved cookie rfl
    simpa using alone
  | swept instant ttl due => exact .swept instant ttl due
  | alone change single => exact .plain (by simpa using plain_of_single single)

namespace App

/-- The next id that a session would be given is not refused. -/
def NextFresh (app : App) : Prop :=
  app.shared.sessions.isRefused (IdSource.sessionId app.ids.sessions) = false

/-- The next id that a session would be given is that of no session. -/
def NextUnused (app : App) : Prop :=
  app.shared.sessions.contains (IdSource.sessionId app.ids.sessions) = false

/-- A session that is new has the next generated id. -/
theorem sessionFor_minted {app : App} {now : Instant} {cookie : Option String}
    (minted : (app.sessionFor now cookie).2.minted = true) :
    (app.sessionFor now cookie).2.id = IdSource.sessionId app.ids.sessions := by
  simp only [sessionFor, Sessions.resolve] at minted ⊢
  split at minted
  · cases minted
  · rfl

theorem sessionFor_admitted {app : App} (fresh : app.NextFresh) (now : Instant)
    (cookie : Option String) :
    app.shared.sessions.isRefused (app.sessionFor now cookie).2.id = false := by
  simp only [sessionFor, Sessions.resolve]
  split
  · next id kept =>
    have named := (Option.filter_eq_some_iff.mp kept).2
    rw [Bool.and_eq_true, Bool.not_eq_true', Bool.not_eq_true'] at named
    exact named.2
  · exact fresh

theorem arranged_admits {app : App} {now : Instant} {step : Step} {changes : List Change}
    (arranged : Change.Arranged app now step changes) (fresh : app.NextFresh) :
    app.Admits now changes := by
  cases arranged with
  | plain all => exact app.admits_of_plain now changes all
  | resolved cookie all =>
    refine admits_append ⟨sessionFor_admitted fresh now cookie, ?_⟩ (admits_of_plain now _ _ all)
    apply admits_of_plain
    cases (app.sessionFor now cookie).2.minted <;> rfl
  | swept instant ttl due => exact ⟨trivial, trivial⟩

end App

namespace Scenario

theorem step_keeps_apart (scenario : Scenario) (now : Instant) (step : Step)
    (apart : scenario.app.shared.sessions.Apart) (fresh : scenario.app.NextFresh) :
    (scenario.step now step).scenario.app.shared.sessions.Apart := by
  rw [step_changes]
  exact App.applyAll_apart apart
    (App.arranged_admits (scenario.changes_occasion now step).arranged fresh)

theorem reached_apart (scenario : Scenario) (steps : List (Instant × Step))
    (apart : scenario.app.shared.sessions.Apart)
    (fresh : ∀ past, past <+: steps → (scenario.reached past).app.NextFresh) :
    (scenario.reached steps).app.shared.sessions.Apart := by
  induction steps generalizing scenario with
  | nil => exact apart
  | cons step rest ih =>
    apply ih
    · exact scenario.step_keeps_apart step.1 step.2 apart (fresh [] List.nil_prefix)
    · exact fun past begins => fresh (step :: past) (List.cons_prefix_cons.mpr ⟨rfl, begins⟩)

theorem reached_refused (scenario : Scenario) (steps : List (Instant × Step)) (session : String) :
    (scenario.reached steps).app.refusedSince? session =
      (scenario.along App.refusals steps).foldl
        (RefusalEvent.leaves session scenario.app.sessionWindow)
        (scenario.app.refusedSince? session) := by
  refine reached_along (fun app => app.config = scenario.app.config)
    (fun app => app.refusedSince? session) ?_ ?_ scenario steps rfl
  · exact fun now app change same => (app.apply_fixed now change).2.trans same
  · intro now app change same
    exact app.apply_refused session now change (by rw [App.sessionWindow, same]; rfl)

end Scenario

/-! The true time: steps come one after the other, and sweeps go by the instant of their step. -/

structure OnTime (steps : List (Instant × Step)) (now : Instant) : Prop where
  ordered : steps.Pairwise fun first later => first.1 ≤ later.1
  past : ∀ step ∈ steps, step.1 ≤ now
  swept : ∀ step ∈ steps, ∀ instant ttl, step.2 = .sweep instant ttl → instant = step.1

theorem Scene.refusals_instant {now : Instant} {scene : Scene} {deeds : List Deed}
    {event : RefusalEvent} (member : event ∈ scene.along now (refusals now) deeds) :
    event.instant = now := by
  induction deeds generalizing scene with
  | nil => nomatch member
  | cons deed rest ih =>
    rcases List.mem_append.mp member with here | later
    · cases deed with
      | refuse =>
        obtain ⟨session, -, rfl⟩ := List.mem_map.mp here
        rfl
      | _ => nomatch here
    · exact ih later

/-- A refusal is of the instant at which it is done, and else there is a sweep. -/
theorem App.refusals_cases {now : Instant} {app : App} {change : Change} {event : RefusalEvent}
    (member : event ∈ app.refusals now change) :
    event.instant = now ∨
      ∃ ttl, change = .sweep event.instant ttl ∧ event = .swept event.instant := by
  cases change with
  | refuseSession id =>
    rw [List.mem_singleton.mp member]
    exact .inl rfl
  | sweep instant ttl =>
    rw [List.mem_singleton.mp member]
    exact .inr ⟨ttl, rfl, rfl⟩
  | work place mode deeds =>
    rw [refusals] at member
    split at member
    · exact absurd member List.not_mem_nil
    · exact .inl (Scene.refusals_instant member)
  | _ => exact absurd member List.not_mem_nil

theorem App.refusals_instant {now : Instant} {app : App} {change : Change} {event : RefusalEvent}
    (timely : change.Timely now) (member : event ∈ app.refusals now change) :
    event.instant = now := by
  obtain refused | ⟨ttl, rfl, -⟩ := App.refusals_cases member
  · exact refused
  · exact timely

theorem Change.arranged_timely {app : App} {now : Instant} {step : Step} {changes : List Change}
    (arranged : Arranged app now step changes)
    (due : ∀ instant ttl, step = .sweep instant ttl → instant = now) :
    ∀ change ∈ changes, change.Timely now := by
  have settled {rest : List Change} (all : rest.all Change.plain = true) :
      ∀ change ∈ rest, change.Timely now := by
    intro change member
    have plain := List.all_eq_true.mp all change member
    cases change with
    | sweep instant ttl => nomatch plain
    | _ => trivial
  cases arranged with
  | plain all => exact settled all
  | resolved cookie all =>
    intro change member
    rcases List.mem_append.mp member with first | later
    · rcases List.mem_cons.mp first with rfl | second
      · trivial
      · cases minted : (app.sessionFor now cookie).2.minted <;>
          · simp only [minted] at second
            rw [List.mem_singleton.mp second]
            trivial
    · exact settled all change later
  | swept instant ttl when =>
    intro change member
    rw [List.mem_singleton.mp member]
    exact when.elim (due instant ttl) id

namespace Scenario

theorem refusals_instant {scenario : Scenario} {now : Instant} {step : Step}
    (due : ∀ instant ttl, step = .sweep instant ttl → instant = now) {event : RefusalEvent}
    (member : event ∈ scenario.app.along now (App.refusals now) (scenario.changes now step)) :
    event.instant = now := by
  obtain ⟨before, change, listed, here⟩ := App.mem_along member
  exact App.refusals_instant
    (Change.arranged_timely (scenario.changes_occasion now step).arranged due change listed) here

theorem refusals_within {scenario : Scenario} {steps : List (Instant × Step)}
    (swept : ∀ step ∈ steps, ∀ instant ttl, step.2 = .sweep instant ttl → instant = step.1)
    {event : RefusalEvent} (member : event ∈ scenario.along App.refusals steps) :
    ∃ step ∈ steps, event.instant = step.1 := by
  induction steps generalizing scenario with
  | nil => nomatch member
  | cons step rest ih =>
    rcases List.mem_append.mp member with here | later
    · exact ⟨step, List.mem_cons_self,
        refusals_instant (swept step List.mem_cons_self) here⟩
    · obtain ⟨other, listed, same⟩ :=
        ih (fun other listed => swept other (List.mem_cons_of_mem step listed)) later
      exact ⟨other, List.mem_cons_of_mem step listed, same⟩

theorem refusals_ordered {scenario : Scenario} {steps : List (Instant × Step)}
    (ordered : steps.Pairwise fun first later => first.1 ≤ later.1)
    (swept : ∀ step ∈ steps, ∀ instant ttl, step.2 = .sweep instant ttl → instant = step.1) :
    (scenario.along App.refusals steps).Pairwise fun first later =>
      first.instant ≤ later.instant := by
  induction steps generalizing scenario with
  | nil => exact List.Pairwise.nil
  | cons step rest ih =>
    obtain ⟨soonest, remaining⟩ := List.pairwise_cons.mp ordered
    have now := swept step List.mem_cons_self
    have after := fun other listed => swept other (List.mem_cons_of_mem step listed)
    refine List.pairwise_append.mpr ⟨?_, ih remaining after, ?_⟩
    · refine List.pairwise_of_forall_mem_list fun first here second there => ?_
      exact Nat.le_of_eq ((refusals_instant now here).trans (refusals_instant now there).symm)
    · intro first here second there
      obtain ⟨other, listed, same⟩ := refusals_within after there
      rw [refusals_instant now here, same]
      exact soonest other listed

/-- Whoever was logged out of is refused for a whole window by the true time. -/
theorem unforgotten_onTime {scenario : Scenario} {steps : List (Instant × Step)} {now : Instant}
    (timed : OnTime steps now) {before after : List RefusalEvent} {session : String}
    {since : Instant}
    (logout : scenario.along App.refusals steps = before ++ .refused session since :: after)
    {window : Duration} (soon : now ≤ since + window) :
    Unforgotten session window since after := by
  have ordered := scenario.refusals_ordered timed.ordered timed.swept
  rw [logout] at ordered
  have later := (List.pairwise_cons.mp (List.pairwise_append.mp ordered).2.1).1
  refine unforgotten_within (Nat.le_refl since) fun event member => ⟨later event member, ?_⟩
  have listed : event ∈ scenario.along App.refusals steps := by
    rw [logout]
    exact List.mem_append_right before (List.mem_cons_of_mem _ member)
  obtain ⟨step, done, same⟩ := refusals_within timed.swept listed
  rw [same]
  exact Nat.le_trans (timed.past step done) soon

end Scenario

theorem App.loadPage_session {app : App} {now : Instant} {route : String}
    {cookie : Option String} {page : LoadedPage}
    (loaded : (app.loadPage now route cookie).2 = .ok page) :
    page.session = (app.sessionFor now cookie).2.id ∧
      page.newSession = (app.sessionFor now cookie).2.minted := by
  have loads := app.loadPage_loads now route cookie
  generalize app.loadPage now route cookie = outcome at loads loaded
  cases loads with
  | rendered connection =>
    obtain rfl := Except.ok.inj loaded
    exact ⟨rfl, rfl⟩
  | unknown | crashed | panicked => cases loaded

/-- A cookie with the name of the session is given another session, by a page that it loads too. -/
structure App.Rejects (app : App) (now : Instant) (cookie session : String) : Prop where
  minted : (app.sessionFor now (some cookie)).2.minted = true
  other : (app.sessionFor now (some cookie)).2.id ≠ session
  loaded : ∀ route page, (app.loadPage now route (some cookie)).2 = .ok page →
    page.newSession = true ∧ page.session ≠ session

theorem App.rejects_of_loggedOut {app : App} {session : String}
    (out : app.shared.sessions.LoggedOut session) (fresh : app.NextFresh) (now : Instant)
    {cookie : String} (named : Text.trim cookie = session) : app.Rejects now cookie session := by
  have resolved : (app.sessionFor now (some cookie)).2 =
      ⟨IdSource.sessionId app.ids.sessions, true⟩ := by
    simp only [sessionFor, out.resolved now (IdSource.sessionId app.ids.sessions) cookie named]
  have minted : (app.sessionFor now (some cookie)).2.minted = true := by rw [resolved]
  have other : (app.sessionFor now (some cookie)).2.id ≠ session := by
    rw [resolved]
    rintro rfl
    rw [NextFresh, out.refused] at fresh
    nomatch fresh
  refine ⟨minted, other, fun route page loaded => ?_⟩
  obtain ⟨same, new⟩ := loadPage_session loaded
  rw [same, new]
  exact ⟨minted, other⟩

theorem refused_of_logout {session : String} {window : Duration} {since : Instant}
    {events before after : List RefusalEvent}
    (logout : events = before ++ .refused session since :: after)
    (kept : Unforgotten session window since after) :
    ∃ latest, events.foldl (RefusalEvent.leaves session window) none = some latest := by
  rw [logout, List.foldl_append, List.foldl_cons, RefusalEvent.leaves, if_pos rfl]
  exact refused_of_unforgotten kept

/-- Wherever a run has come after a logout that no sweep has forgotten, at any point within a handler
there too, nothing can be done with the session, and its cookie is rejected. By the true time, a
cookie that was given out before the logout is rejected for all of its life. -/
theorem logout_is_final (config : Config) (pages : List Page) (app : App)
    (built : App.build config pages = .ok app) (steps : List (Instant × Step))
    (fresh : ∀ past, past <+: steps → ((Scenario.ofApp app).reached past).app.NextFresh) :
    let scenario := (Scenario.ofApp app).reached steps
    let history := (Scenario.ofApp app).along App.refusals steps
    (∀ before session since after, history = before ++ .refused session since :: after →
      (Unforgotten session app.sessionWindow since after →
        scenario.app.shared.sessions.LoggedOut session ∧
        ∀ now cookie, Text.trim cookie = session → scenario.app.Rejects now cookie session) ∧
      ∀ issued maxAge now, Http.maxAge? (Http.cookieFor app.config session) = some maxAge →
        issued ≤ since → now ≤ issued + seconds maxAge → OnTime steps now →
        ∀ cookie, Text.trim cookie = session → scenario.app.Rejects now cookie session) ∧
    ∀ (place : Nat) (connection : Connection),
      scenario.app.connections[place]? = some connection →
      ∀ (mode : Mode) (signals : KeyMap Json) (invocation : Invocation) (done : Handler),
        let begun := (connection.scene scenario.app.shared mode).putSignals signals
        let within := begun.along invocation.now (Scene.refusals invocation.now)
          (begun.handlerDeeds invocation done)
        ∀ before session since after,
          history ++ within = before ++ .refused session since :: after →
          Unforgotten session app.sessionWindow since after →
          (begun.perform invocation done).scene.shared.sessions.LoggedOut session := by
  intro scenario history
  have empty := (App.build_empty built).2
  have start : (Scenario.ofApp app).app.shared.sessions.Apart := by
    rw [Scenario.ofApp, empty]
    exact Sessions.apart_empty
  have apart := (Scenario.ofApp app).reached_apart steps start fresh
  have unrefused (session : String) : (Scenario.ofApp app).app.refusedSince? session = none := by
    rw [App.refusedSince?, Scenario.ofApp, empty]
    rfl
  have recorded (session : String) : scenario.app.refusedSince? session =
      history.foldl (RefusalEvent.leaves session app.sessionWindow) none := by
    rw [← unrefused session]
    exact (Scenario.ofApp app).reached_refused steps session
  constructor
  · intro before session since after logout
    have final (kept : Unforgotten session app.sessionWindow since after) :
        scenario.app.shared.sessions.LoggedOut session := by
      obtain ⟨latest, refused⟩ := refused_of_logout logout kept
      exact Sessions.loggedOut_of_refused apart
        ((KeyMap.contains_iff _ _).mpr ⟨latest, (recorded session).trans refused⟩)
    have next := fresh steps (List.prefix_refl steps)
    refine ⟨fun kept => ⟨final kept, fun now cookie named =>
      App.rejects_of_loggedOut (final kept) next now named⟩, ?_⟩
    intro issued maxAge now given earlier alive timed cookie named
    rw [Http.maxAge?_cookieFor] at given
    obtain rfl := Option.some.inj given
    have soon : now ≤ since + app.sessionWindow :=
      Nat.le_trans alive (Nat.add_le_add_right earlier _)
    exact App.rejects_of_loggedOut (final (Scenario.unforgotten_onTime timed logout soon)) next now
      named
  · intro place connection here mode signals invocation done begun within before session since
      after logout kept
    have still : begun.shared.sessions.Apart := apart
    have scene := begun.perform_deeds invocation done
    have refusal : (begun.perform invocation done).scene.refusedSince? session =
        (history ++ within).foldl (RefusalEvent.leaves session app.sessionWindow) none := by
      rw [scene, Scene.carryOutAll_refused session app.sessionWindow, List.foldl_append,
        ← recorded session]
      rfl
    obtain ⟨latest, refused⟩ := refused_of_logout logout kept
    refine Sessions.loggedOut_of_refused ?_
      ((KeyMap.contains_iff _ _).mpr ⟨latest, refusal.trans refused⟩)
    rw [scene]
    exact Scene.carryOutAll_keeps Sessions.apart_kept begun invocation.now _ still

-- One tab logs its session out and goes on as before; a sweep comes within the window. Then a
-- handler logs out once more, and writes.
def afterLogout : List (Instant × Step) :=
  [(1, .create "first" (some "s") clubPage), (3, .runAction "first" "join" KeyMap.empty),
    (5, .refuseSession "s"), (7, .runAction "first" "join" KeyMap.empty), (9, .sweepNow 0)]

def leaveAndJoin : Handler :=
  [.refuseSession, .set (some ⟨.string, memberHandle⟩) (.literal (.str "ann"))]

theorem logout_is_final_one_tab :
    App.build Config.defaults [clubPage] = .ok clubApp ∧
      ((Scenario.ofApp clubApp).reached afterLogout).app.shared.sessions.LoggedOut "s" ∧
      ((Scenario.ofApp clubApp).reached afterLogout).app.Rejects 11 " s " "s" ∧
      ∃ connection, ((Scenario.ofApp clubApp).reached afterLogout).app.connections[0]? =
          some connection ∧
        ((((connection.scene ((Scenario.ofApp clubApp).reached afterLogout).app.shared
          .action).putSignals KeyMap.empty).perform (Page.invocation clubPage "join" 11)
            leaveAndJoin).scene.shared.sessions.LoggedOut "s") := by
  have fresh : ∀ past, past <+: afterLogout →
      ((Scenario.ofApp clubApp).reached past).app.NextFresh := by
    intro past begins
    have listed := (List.mem_inits past afterLogout).mpr begins
    simp only [afterLogout, List.inits, List.map_cons, List.map_nil, List.mem_cons,
      List.not_mem_nil, or_false] at listed
    rcases listed with rfl | rfl | rfl | rfl | rfl | rfl <;> rfl
  have timed : OnTime afterLogout 11 := by
    refine ⟨by simp [afterLogout], by simp [afterLogout], fun step listed instant ttl swept => ?_⟩
    simp only [afterLogout, List.mem_cons, List.not_mem_nil, or_false] at listed
    rcases listed with rfl | rfl | rfl | rfl | rfl <;> cases swept
  have law := logout_is_final Config.defaults [clubPage] clubApp rfl afterLogout fresh
  have final := law.1 [] "s" 5 [.swept 9] rfl
  have kept : Unforgotten "s" clubApp.sessionWindow 5 [.swept 9] := ⟨by decide, trivial⟩
  have out := (final.1 kept).1
  have rejects := final.2 3 86400 11 rfl (by decide) (by decide) timed " s " rfl
  have builds : App.build Config.defaults [clubPage] = .ok clubApp := rfl
  have within := law.2 0 _ rfl .action KeyMap.empty (Page.invocation clubPage "join" 11)
    leaveAndJoin [] "s" 5 [.swept 9, .refused "s" 11] rfl ⟨by decide, trivial⟩
  exact ⟨builds, out, rejects, _, rfl, within⟩

end LiveTabs
