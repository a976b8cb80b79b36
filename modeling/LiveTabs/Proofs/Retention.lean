import LiveTabs.Proofs.Expiry
/-!
A tab that is still there has the values of its session. A page is loaded into a connection together
with its session, and what refreshes a connection refreshes the session that it carries; so the
session was refreshed no earlier than any of its connections, and a sweep that spares one of them
spares the session.
-/
namespace LiveTabs

namespace Step

/-- The instant and the time to live that a step sweeps with. -/
def sweep? (now : Instant) : Step → Option (Instant × Duration)
  | .sweep instant ttl => some (instant, ttl)
  | .sweepNow ttl => some (now, ttl)
  | .runSweeper (some 0) => some (now, 0)
  | _ => none

/-- Creates a connection without a page being loaded. -/
def creates : Step → Bool
  | .create _ _ _ => true
  | _ => false

end Step

namespace App

/-- A page is loaded into a connection with the session that its cookie is resolved to. -/
theorem connect_mem_pageChanges {app : App} {now : Instant} {route : String}
    {cookie : Option String} {id : String} {session : Option String} {page : Page}
    (connects : .connect id session page ∈ app.pageChanges now route cookie) :
    session = some (app.sessionFor now cookie).2.id ∧
      ∀ change ∈ app.sessionChanges now cookie, change ∈ app.pageChanges now route cookie := by
  unfold pageChanges at connects ⊢
  cases routed : app.pages.get? route with
  | none => simp [routed] at connects
  | some shown =>
    simp only [routed] at connects ⊢
    constructor
    · rcases List.mem_append.mp connects with front | panicked
      · rcases List.mem_append.mp front with resolving | opening
        · unfold sessionChanges at resolving
          dsimp only at resolving
          split at resolving <;> simp at resolving
        · simp only [List.mem_cons, List.not_mem_nil, or_false, reduceCtorEq, false_or,
            Change.connect.injEq] at opening
          exact opening.2.1
      · split at panicked <;> simp at panicked
    · intro change member
      exact List.mem_append_left _ (List.mem_append_left _ member)

/-- A connection that changes create carries the session that it was created with. -/
theorem applyAll_opened {app : App} {place : Nat} (absent : app.connections[place]? = none)
    {now : Instant} {changes : List Change} {later : Connection}
    (there : (app.applyAll now changes).connections[place]? = some later) :
    ∃ id page, .connect id later.session page ∈ changes := by
  induction changes generalizing app with
  | nil =>
    rw [applyAll, List.foldl_nil, absent] at there
    cases there
  | cons change rest ih =>
    cases opened : (app.apply now change).connections[place]? with
    | none =>
      obtain ⟨id, page, member⟩ := ih opened there
      exact ⟨id, page, List.mem_cons_of_mem change member⟩
    | some connection =>
      obtain ⟨id, session, page, rfl, -, fresh⟩ := created_of_new absent opened
      have continues := App.applyAll_induction now
        (fun app change before => before.trans (app.apply_continues now change)) _ rest
        (App.Continues.refl (app.apply now (.connect id session page)))
      obtain ⟨same, stands, continued⟩ := continues place connection opened
      obtain rfl : same = later := Option.some.inj (stands.symm.trans there)
      have carried : connection.session = session := by rw [Connection.fresh?_eq fresh]
      exact ⟨id, page, by rw [continued.session, carried]; exact List.mem_cons_self⟩

end App

namespace Scenario

/-- Only where a page is loaded, or by itself, is a connection created. -/
theorem connects_cases {scenario : Scenario} {now : Instant} {direct : Step}
    (plainly : ∀ made, direct ≠ .request made) {id : String} {session : Option String} {page : Page}
    (connects : .connect id session page ∈ scenario.changes now direct) :
    direct.creates = true ∨ ∃ route cookie, direct = .render route cookie := by
  have tabless {changes : List Change} (all : changes.all Change.onTab = true) :
      .connect id session page ∉ changes :=
    fun member => absurd (List.all_eq_true.mp all _ member) Bool.false_ne_true
  cases direct with
  | request made => exact absurd rfl (plainly made)
  | create other carried shown => exact .inl rfl
  | render route cookie => exact .inr ⟨route, cookie, rfl⟩
  | runRequest action payload =>
    exact absurd connects (tabless (scenario.app.requestChanges_onTab now action payload))
  | runAction other action signals =>
    exact absurd connects (tabless (scenario.app.actionChanges_onTab now other action signals))
  | subscribe other => exact absurd connects (tabless (scenario.app.subscribeChanges_onTab other))
  | refresh other => exact absurd connects (tabless (scenario.app.refreshChanges_onTab other))
  | resolve cookie =>
    simp only [changes, App.sessionChanges] at connects
    split at connects <;> simp at connects
  | poll number limit =>
    rw [changes, pollChanges] at connects
    split at connects
    · cases connects
    · split at connects
      · cases connects
      · exact absurd connects (tabless (scenario.app.takeChanges_onTab _ _))
  | subscribeTo target =>
    rw [changes] at connects
    cases placed : scenario.place? target <;> simp [placed] at connects
  | pop target =>
    rw [changes] at connects
    cases found : scenario.find? target <;> simp [found] at connects
  | drain target =>
    rw [changes] at connects
    cases found : scenario.find? target <;> simp [found] at connects
  | direct target mode action body =>
    rw [changes, directChanges] at connects
    cases found : scenario.find? target <;> simp [found] at connects
  | runSweeper ttl =>
    rw [changes] at connects
    split at connects <;> simp at connects
  | _ => simp [changes] at connects

/-- A step that is no creation by itself creates a connection only with a session that it resolves a
cookie to. An id that was minted is that of no session before. -/
theorem connects_resolved {scenario : Scenario} (exact : scenario.app.Exact) {now : Instant}
    {step : Step} (rendered : step.creates = false) (unused : scenario.app.NextUnused) {id : String}
    {session : Option String} {page : Page}
    (connects : .connect id session page ∈ scenario.changes now step) :
    ∃ named, session = some named ∧ (scenario.Renews named now step ∨
      scenario.app.shared.sessions.contains named = false) := by
  have every := scenario.changes_meant now step
  cases meant : step.meant? scenario.app with
  | none =>
    rw [every, meant] at connects
    cases connects
  | some direct =>
    rw [meant, Option.map_some, Option.getD_some] at every
    rw [every] at connects
    rcases connects_cases (Step.meant?_direct meant) connects with created | ⟨route, cookie, rfl⟩
    · refine absurd created (Bool.eq_false_iff.mp ?_)
      cases step with
      | request made =>
        obtain ⟨other, rfl⟩ | ⟨route, cookie, rfl⟩ | ⟨other, rfl⟩ | ⟨action, payload, rfl⟩ :=
          Http.asked?_cases meant <;> rfl
      | _ => exact Option.some.inj meant ▸ rendered
    · obtain ⟨carried, resolving⟩ := App.connect_mem_pageChanges connects
      refine ⟨_, carried, ?_⟩
      cases minted : (scenario.app.sessionFor now cookie).2.minted with
      | true =>
        rw [App.sessionFor_minted minted]
        exact .inr unused
      | false =>
        refine .inl ((refreshSession_mem_iff exact).mp ?_)
        rw [every]
        refine resolving _ ?_
        simp [App.sessionChanges, minted]

end Scenario

namespace Restamps
variable {refreshes others : Prop} {now first second third fourth : Instant}

theorem le (stamped : Restamps refreshes now first second) : first ≤ second := by
  by_cases again : refreshes
  · rw [stamped.renewed again]
    exact Nat.le_max_left first now
  · exact Nat.le_of_eq (stamped.kept again).symm

theorem le_now (stamped : Restamps refreshes now first second) (past : first ≤ now) :
    second ≤ now := by
  by_cases again : refreshes
  · rw [stamped.renewed again]
    exact Nat.max_le.mpr ⟨past, Nat.le_refl now⟩
  · rw [stamped.kept again]
    exact past

/-- A stamp that is renewed whenever another one is does not fall behind it. -/
theorem keeps_up (stamped : Restamps refreshes now first second)
    (other : Restamps others now third fourth) (follows : refreshes → others)
    (ahead : first ≤ third) : second ≤ fourth := by
  by_cases again : refreshes
  · rw [stamped.renewed again, other.renewed (follows again)]
    exact Nat.max_le.mpr ⟨Nat.le_trans ahead (Nat.le_max_left third now), Nat.le_max_right third now⟩
  · rw [stamped.kept again]
    exact Nat.le_trans ahead other.le

end Restamps

/-- Every connection was refreshed by an instant, and the session that it carries, where it has
values, no earlier than the connection. -/
structure App.Paced (latest : Instant) (app : App) : Prop where
  bounded : ∀ (place : Nat) (connection : Connection), app.connections[place]? = some connection →
    connection.lastAccess ≤ latest
  paced : ∀ (place : Nat) (connection : Connection) (session : String) (entry : Session),
    app.connections[place]? = some connection → connection.session = some session →
      app.shared.sessions.live.get? session = some entry → connection.lastAccess ≤ entry.lastAccess

namespace Scenario

/-- Over a step that refreshes a connection its session is entered or refreshed too. -/
theorem step_paced {scenario : Scenario} (exact : scenario.app.Exact) {latest now : Instant}
    (forward : latest ≤ now) {step : Step} (rendered : step.creates = false)
    (unused : scenario.app.NextUnused) (before : scenario.app.Paced latest) :
    (scenario.step now step).scenario.app.Paced now := by
  have stamps {place : Nat} {connection : Connection}
      (here : scenario.app.connections[place]? = some connection) :
      ∃ later, (scenario.step now step).scenario.app.connections[place]? = some later ∧
        Restamps (scenario.Touches place step) now connection.lastAccess later.lastAccess ∧
        later.session = connection.session := by
    obtain ⟨later, there, stamped⟩ :=
      App.applyAll_lastAccess here now (scenario.changes now step)
    rw [← step_changes] at there
    obtain ⟨same, stands, continued⟩ := scenario.step_continues now step place connection here
    obtain rfl : same = later := Option.some.inj (stands.symm.trans there)
    exact ⟨same, there, stamped.of_iff (touch_mem_iff exact).symm, continued.session⟩
  have created {place : Nat} {later : Connection}
      (absent : scenario.app.connections[place]? = none)
      (there : (scenario.step now step).scenario.app.connections[place]? = some later) :
      later.lastAccess = now ∧ ∃ session, later.session = some session ∧
        (scenario.Renews session now step ∨
          scenario.app.shared.sessions.contains session = false) := by
    rw [step_changes] at there
    obtain ⟨id, page, connects⟩ := App.applyAll_opened absent there
    exact ⟨App.applyAll_created absent there, connects_resolved exact rendered unused connects⟩
  constructor
  · intro place later there
    cases found : scenario.app.connections[place]? with
    | none => exact Nat.le_of_eq (created found there).1
    | some connection =>
      obtain ⟨same, stands, stamped, -⟩ := stamps found
      obtain rfl : same = later := Option.some.inj (stands.symm.trans there)
      exact stamped.le_now (Nat.le_trans (before.bounded place connection found) forward)
  · intro place later session entry there carries entered
    obtain ⟨restamps, begun⟩ := step_ages exact session now step
    cases found : scenario.app.connections[place]? with
    | none =>
      obtain ⟨stamp, named, carried, resolved⟩ := created found there
      obtain rfl : named = session := Option.some.inj (carried.symm.trans carries)
      cases known : scenario.app.shared.sessions.live.get? named with
      | none => rw [stamp, begun entry known entered]
      | some earlier =>
        -- The session was there, so its id was not minted but came with the cookie.
        have renews := resolved.resolve_right fun absent => by
          rw [(KeyMap.contains_eq_false_iff _ _).mp absent] at known
          cases known
        rw [stamp, (restamps earlier entry known entered).renewed renews]
        exact Nat.le_max_right _ _
    | some connection =>
      obtain ⟨same, stands, stamped, kept⟩ := stamps found
      obtain rfl : same = later := Option.some.inj (stands.symm.trans there)
      rw [kept] at carries
      cases known : scenario.app.shared.sessions.live.get? session with
      | none =>
        rw [begun entry known entered]
        exact stamped.le_now (Nat.le_trans (before.bounded place connection found) forward)
      | some earlier =>
        exact stamped.keeps_up (restamps earlier entry known entered)
          (fun touched => .inr ⟨place, connection, touched, found, carries⟩)
          (before.paced place connection session earlier found carries known)

/-- Where a run has come, everything has kept its pace. -/
theorem reached_paced {scenario : Scenario} (exact : scenario.app.Exact) {start : Instant}
    {steps : List (Instant × Step)} (ordered : steps.Pairwise fun first later => first.1 ≤ later.1)
    (begins : ∀ timed ∈ steps, start ≤ timed.1) (rendered : ∀ timed ∈ steps, timed.2.creates = false)
    (unused : ∀ past, past <+: steps → (scenario.reached past).app.NextUnused)
    (before : scenario.app.Paced start) :
    ∃ latest, (scenario.reached steps).app.Paced latest := by
  induction steps generalizing scenario start with
  | nil => exact ⟨start, before⟩
  | cons timed rest ih =>
    obtain ⟨now, step⟩ := timed
    obtain ⟨forward, later⟩ := List.pairwise_cons.mp ordered
    have exact' : (scenario.step now step).scenario.app.Exact :=
      reached_exact exact [(now, step)]
    have stepped : (scenario.step now step).scenario.app.Paced now :=
      step_paced exact (begins _ List.mem_cons_self) (rendered (now, step) List.mem_cons_self)
        (unused [] List.nil_prefix) before
    exact ih exact' later forward (fun other member => rendered other (List.mem_cons_of_mem _ member))
      (fun past prefixed => unused ((now, step) :: past) (List.cons_prefix_cons.mpr ⟨rfl, prefixed⟩))
      stepped

/-- A step that sweeps does just that, or there is no connection to wait for. -/
theorem step_sweep (scenario : Scenario) {now instant : Instant} {step : Step} {ttl : Duration}
    (sweeps : step.sweep? now = some (instant, ttl)) :
    (scenario.step now step).scenario.app = (scenario.app.sweep instant ttl).1 ∨
      (scenario.step now step).scenario.app = scenario.app := by
  cases step with
  | sweep other limit =>
    cases sweeps
    exact .inl rfl
  | sweepNow limit =>
    cases sweeps
    exact .inl rfl
  | runSweeper limit =>
    cases limit with
    | none => cases sweeps
    | some limit =>
      cases limit with
      | succ more => cases sweeps
      | zero =>
        cases sweeps
        simp only [Scenario.step, App.runSweeper]
        split
        · exact .inl rfl
        · exact .inr rfl
  | _ => cases sweeps

end Scenario

namespace App

/-- A connection that a sweep spares was there before as it is now, and its time is not over. -/
theorem lookup_sweep {app : App} (exact : app.Exact) {instant : Instant} {ttl : Duration}
    {id : String} {connection : Connection}
    (spared : (app.sweep instant ttl).1.lookup id = some connection) :
    app.lookup id = some connection ∧ instant - connection.lastAccess ≤ ttl := by
  obtain ⟨place, stays, there⟩ := Option.bind_eq_some_iff.mp spared
  have placed : app.place? id = some place := by
    rw [place?_sweep] at stays
    exact (Option.filter_eq_some_iff.mp stays).1
  obtain ⟨before, here, named⟩ := exact.standing id place placed
  have young := place?_sweep_found placed here instant ttl
  rw [stays, eq_comm, Option.ite_none_left_eq_some] at young
  obtain ⟨later, stands, -, kept⟩ := sweep_connections exact here 0 instant ttl
  obtain rfl : later = connection := Option.some.inj (stands.symm.trans there)
  have same : later = before := by
    apply kept
    intro removed
    rw [named, stays] at removed
    cases removed.2
  rw [same]
  exact ⟨(lookup_placed placed here).trans rfl, Nat.not_lt.mp young.1⟩

theorem paced_of_built {config : Config} {pages : List Page} {app : App}
    (built : build config pages = .ok app) (start : Instant) : app.Paced start := by
  obtain ⟨routes, rfl⟩ := build_fresh built
  constructor
  · intro place connection here
    cases here
  · intro place connection session entry here
    cases here

/-- A sweep that spares a connection spares its session, whose window is no shorter. -/
theorem sweep_retains {app : App} (exact : app.Exact) {latest : Instant} (paced : app.Paced latest)
    {instant : Instant} {ttl : Duration} (short : ttl ≤ app.sessionWindow) {id session : String}
    {connection : Connection} (spared : (app.sweep instant ttl).1.lookup id = some connection)
    (carries : connection.session = some session) {entry : Session}
    (entered : app.shared.sessions.live.get? session = some entry) :
    (app.sweep instant ttl).1.shared.sessions.live.get? session = some entry := by
  obtain ⟨found, young⟩ := lookup_sweep exact spared
  obtain ⟨place, placed, here⟩ := Option.bind_eq_some_iff.mp found
  have pace := paced.paced place connection session entry here carries entered
  have kept : ¬ app.sessionWindow < instant - entry.lastAccess := by
    apply Nat.not_lt.mpr
    calc instant - entry.lastAccess
      _ ≤ instant - connection.lastAccess := Nat.sub_le_sub_left pace instant
      _ ≤ ttl := young
      _ ≤ app.sessionWindow := short
  rw [live_sweep, entered, filter_unexpired Session.lastAccess, if_neg kept]

end App

/-- In a run in which connections are created only where pages are loaded, and ids of sessions are
new when they are given, the session of a registered connection was refreshed no earlier than the
connection, where it has values at all; and a sweep with a time to live within the session window
leaves the values of the session of every connection that it spares as they are. -/
theorem live_tabs_keep_sessions {config : Config} {pages : List Page} {app : App}
    (built : App.build config pages = .ok app) {steps : List (Instant × Step)}
    (ordered : steps.Pairwise fun first later => first.1 ≤ later.1)
    (rendered : ∀ timed ∈ steps, timed.2.creates = false)
    (unused : ∀ past, past <+: steps → ((Scenario.ofApp app).reached past).app.NextUnused) :
    (∀ past, past <+: steps →
      let reached := ((Scenario.ofApp app).reached past).app
      ∀ id connection session entry, reached.lookup id = some connection →
        connection.session = some session →
        reached.shared.sessions.live.get? session = some entry →
        connection.lastAccess ≤ entry.lastAccess) ∧
    ∀ past now step later instant ttl, steps = past ++ (now, step) :: later →
      step.sweep? now = some (instant, ttl) → ttl ≤ seconds config.sessionMaxAge →
      let before := ((Scenario.ofApp app).reached past).app
      let after := ((Scenario.ofApp app).reached (past ++ [(now, step)])).app
      ∀ id connection session entry, after.lookup id = some connection →
        connection.session = some session →
        before.shared.sessions.live.get? session = some entry →
        after.shared.sessions.live.get? session = some entry := by
  obtain ⟨routes, fresh⟩ := App.build_fresh built
  have start : (Scenario.ofApp app).app.Exact := App.exact_of_built built
  have paced : ∀ past, past <+: steps →
      ∃ latest, ((Scenario.ofApp app).reached past).app.Paced latest := by
    rintro past ⟨later, rfl⟩
    exact Scenario.reached_paced start (List.pairwise_append.mp ordered).1
      (fun timed _ => Nat.zero_le timed.1)
      (fun timed member => rendered timed (List.mem_append_left later member))
      (fun other begins => unused other (begins.trans (List.prefix_append past later)))
      (App.paced_of_built built 0)
  constructor
  · intro past prefixed reached id connection session entry found carries entered
    obtain ⟨latest, pace⟩ := paced past prefixed
    obtain ⟨place, placed, here⟩ := Option.bind_eq_some_iff.mp found
    exact pace.paced place connection session entry here carries entered
  · intro past now step later instant ttl split sweeps short before after id connection session
      entry spared carries entered
    obtain ⟨latest, pace⟩ := paced past ⟨(now, step) :: later, split.symm⟩
    have exact : before.Exact := Scenario.reached_exact start past
    have configured : before.config = config :=
      Scenario.reached_induction (motive := fun app => app.config = config)
        (fun now app change same => (app.apply_fixed now change).2.trans same) _ past
        (by rw [fresh]; rfl)
    have stepped : after = (((Scenario.ofApp app).reached past).step now step).scenario.app := by
      simp only [after, Scenario.reached_append]
      rfl
    rcases ((Scenario.ofApp app).reached past).step_sweep sweeps with swept | idle
    · rw [stepped, swept] at spared ⊢
      refine App.sweep_retains exact pace ?_ spared carries entered
      rw [App.sessionWindow, configured]
      exact short
    · rw [stepped, idle]
      exact entered

-- Two tabs share a cookie. The second alone is used and outlives the first, and the name that the
-- first one gave stays with it.
def sharedCookie : List (Instant × Step) :=
  [(1, .render "/" none), (3, .render "/" (some "@sess0@")),
    (5, .runAction "@conn0@" "join" KeyMap.empty), (7, .runAction "@conn1@" "join" KeyMap.empty),
    (9, .sweepNow 3)]

theorem live_tabs_keep_sessions_shared_cookie :
    App.build Config.defaults [clubPage] = .ok clubApp ∧
    let after := ((Scenario.ofApp clubApp).reached sharedCookie).app
    after.lookup "@conn0@" = none ∧ (after.lookup "@conn1@").isSome = true ∧
    (after.shared.sessions.live.get? "@sess0@").map (·.values) =
      some (KeyMap.ofList [("member", .str "ann")]) := by
  have built : App.build Config.defaults [clubPage] = .ok clubApp := rfl
  have unused : ∀ past, past <+: sharedCookie →
      ((Scenario.ofApp clubApp).reached past).app.NextUnused := by
    intro past begins
    have listed := (List.mem_inits past sharedCookie).mpr begins
    simp only [sharedCookie, List.inits, List.map_cons, List.map_nil, List.mem_cons,
      List.not_mem_nil, or_false] at listed
    rcases listed with rfl | rfl | rfl | rfl | rfl | rfl <;> rfl
  have ordered : sharedCookie.Pairwise fun first later => first.1 ≤ later.1 := by decide
  have keeps := (live_tabs_keep_sessions built ordered (by decide) unused).2 (sharedCookie.take 4) 9
    (.sweepNow 3) [] 9 3 rfl rfl (by decide) "@conn1@" _ "@sess0@" _ rfl rfl rfl
  exact ⟨built, rfl, rfl, congrArg (Option.map Session.values) keeps⟩

end LiveTabs
