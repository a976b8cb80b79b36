import LiveTabs.Proofs.Changes
/-!
What a step can come down to. It works on tabs, or loads a page, or resolves a cookie, or sweeps, or
makes one change to the values that tabs share or to who is registered.
-/
namespace LiveTabs

/-- What a request asks for, where it asks for anything. -/
def Http.asked? (app : App) (request : Request) : Option Step :=
  let (path, query) := pathAndQuery request.target
  let reads := request.method == "GET" || request.method == "HEAD"
  match endpoint? app path with
  | none => none
  | some .close =>
    if request.method == "POST" then
      (Text.Utf8.decodeExact? request.body).map fun text => .close (Text.trim text)
    else none
  | some (.page route) =>
    if reads then
      some (.render route (sessionFrom (cookieHeaders request) app.config.cookieName))
    else none
  | some .pushChannel =>
    if reads then
      match parameter query "tab" with
      | .ok (some id) => some (.subscribe id)
      | _ => none
    else none
  | some .action =>
    if reads then
      match Text.Utf8.decodeExact?
          (Text.Percent.decode (Text.Utf8.encodeChars (actionSegment path))),
        parameter query "payload" with
      | some action, .ok (some payload) => some (.runRequest action payload)
      | _, _ => none
    else none

/-- The step that is taken directly or asked for by a request. -/
def Step.meant? (app : App) : Step → Option Step
  | .request made => Http.asked? app made
  | step => some step

theorem Http.asked?_cases {app : App} {request : Request} {direct : Step}
    (asked : asked? app request = some direct) :
    (∃ id, direct = .close id) ∨ (∃ route cookie, direct = .render route cookie) ∨
      (∃ id, direct = .subscribe id) ∨ ∃ action payload, direct = .runRequest action payload := by
  unfold asked? at asked
  dsimp only at asked
  split at asked
  · nomatch asked
  · split at asked
    · obtain ⟨text, -, rfl⟩ := Option.map_eq_some_iff.mp asked
      exact .inl ⟨_, rfl⟩
    · nomatch asked
  · split at asked
    · exact .inr (.inl ⟨_, _, (Option.some.inj asked).symm⟩)
    · nomatch asked
  · split at asked
    · split at asked
      · exact .inr (.inr (.inl ⟨_, (Option.some.inj asked).symm⟩))
      · nomatch asked
    · nomatch asked
  · split at asked
    · split at asked
      · exact .inr (.inr (.inr ⟨_, _, (Option.some.inj asked).symm⟩))
      · nomatch asked
    · nomatch asked

theorem Step.meant?_direct {app : App} {step direct : Step} (meant : step.meant? app = some direct)
    (made : Http.Request) : direct ≠ .request made := by
  cases step with
  | request other =>
    obtain ⟨id, rfl⟩ | ⟨route, cookie, rfl⟩ | ⟨id, rfl⟩ | ⟨action, payload, rfl⟩ :=
      Http.asked?_cases meant <;> nofun
  | _ =>
    rintro rfl
    nomatch meant

/-- A request does to the application what it asks for. -/
theorem Scenario.changes_meant (scenario : Scenario) (now : Instant) (step : Step) :
    scenario.changes now step =
      ((step.meant? scenario.app).map (scenario.changes now)).getD [] := by
  cases step with
  | request request =>
    simp only [changes, Http.changes, Step.meant?, Http.asked?]
    cases Http.endpoint? scenario.app (Http.pathAndQuery request.target).1 with
    | none => rfl
    | some endpoint =>
      cases endpoint with
      | close =>
        dsimp only
        split
        · unfold Http.closeChanges
          cases Text.Utf8.decodeExact? request.body <;> rfl
        · rfl
      | page route =>
        dsimp only
        split <;> rfl
      | pushChannel =>
        dsimp only
        split
        · unfold Http.eventsChanges
          cases Http.parameter (Http.pathAndQuery request.target).2 "tab" with
          | error refused => rfl
          | ok named => cases named <;> rfl
        · rfl
      | action =>
        dsimp only
        split
        · unfold Http.actionChanges
          generalize Text.Utf8.decodeExact? (Text.Percent.decode _) = action
          cases action with
          | none => rfl
          | some action =>
            cases Http.parameter (Http.pathAndQuery request.target).2 "payload" with
            | error refused => rfl
            | ok sent => cases sent <;> rfl
        · rfl
  | _ => rfl

namespace Change

/-- Works on a tab, or refreshes a session along with one. -/
def onTab : Change → Bool
  | .touch _ => true
  | .refreshSession _ => true
  | .work _ _ _ => true
  | .subscribe _ => true
  | .poll _ => true
  | .pop _ => true
  | .drain _ => true
  | _ => false

/-- Comes alone, and does not sweep. -/
def single : Change → Bool
  | .setSession _ _ _ => true
  | .refuseSession _ => true
  | .setApplication _ _ => true
  | .connect _ _ _ => true
  | .close _ => true
  | _ => false

inductive Occasion (app : App) (now : Instant) (step : Step) : List Change → Prop
  | tabs {changes : List Change} (all : changes.all onTab = true) : Occasion app now step changes
  | page (route : String) (cookie : Option String) :
    Occasion app now step (app.pageChanges now route cookie)
  | resolved (cookie : Option String) : Occasion app now step (app.sessionChanges now cookie)
  | swept (instant : Instant) (ttl : Duration) (due : step = .sweep instant ttl ∨ instant = now) :
    Occasion app now step [.sweep instant ttl]
  | alone (change : Change) (single : change.single = true) : Occasion app now step [change]

end Change

namespace App

theorem refreshChanges_onTab (app : App) (id : String) :
    (app.refreshChanges id).all Change.onTab = true :=
  refreshChanges_all (fun _ => rfl) (fun _ => rfl) app id

theorem actionChanges_onTab (app : App) (now : Instant) (id action : String)
    (signals : KeyMap Json) :
    (app.actionChanges now id action signals).all Change.onTab = true := by
  unfold actionChanges
  dsimp only
  split
  · next connection _ _ =>
    rw [List.all_append, refreshChanges_onTab]
    cases connection.page.handler? action <;> rfl
  · rfl

theorem requestChanges_onTab (app : App) (now : Instant) (action payload : String) :
    (app.requestChanges now action payload).all Change.onTab = true := by
  unfold requestChanges
  split
  · rfl
  · next request _ => exact app.actionChanges_onTab now request.connection action request.signals

theorem subscribeChanges_onTab (app : App) (id : String) :
    (app.subscribeChanges id).all Change.onTab = true := by
  unfold subscribeChanges
  split
  · rfl
  · rw [List.all_append, refreshChanges_onTab]
    rfl

theorem takeChanges_onTab (app : App) (channel : PushChannel) (limit : Nat) :
    (app.takeChanges channel limit).all Change.onTab = true :=
  takeChanges_all rfl app limit

end App

theorem Http.changes_occasion (app : App) (now : Instant) (request : Request) (step : Step) :
    Change.Occasion app now step (changes app now request) := by
  simp only [changes]
  cases endpoint? app (pathAndQuery request.target).1 with
  | none => exact .tabs rfl
  | some endpoint =>
    cases endpoint with
    | close =>
      dsimp only
      split
      · unfold closeChanges
        split
        · exact .tabs rfl
        · exact .alone _ rfl
      · exact .tabs rfl
    | page route =>
      dsimp only
      split
      · exact .page route _
      · exact .tabs rfl
    | pushChannel =>
      dsimp only
      split
      · refine .tabs ?_
        unfold eventsChanges
        split
        · exact app.subscribeChanges_onTab _
        · rfl
      · exact .tabs rfl
    | action =>
      dsimp only
      split
      · refine .tabs ?_
        unfold actionChanges
        split
        · exact app.requestChanges_onTab now _ _
        · rfl
      · exact .tabs rfl

theorem Scenario.changes_occasion (scenario : Scenario) (now : Instant) (step : Step) :
    Change.Occasion scenario.app now step (scenario.changes now step) := by
  cases step with
  | render route cookie => exact .page route cookie
  | resolve cookie => exact .resolved cookie
  | sweep instant ttl => exact .swept instant ttl (.inl rfl)
  | sweepNow ttl => exact .swept now ttl (.inr rfl)
  | runSweeper ttl =>
    rw [changes]
    split
    · exact .swept now 0 (.inr rfl)
    · exact .tabs rfl
  | request request => exact Http.changes_occasion scenario.app now request _
  | create id session page => exact .alone _ rfl
  | close id => exact .alone _ rfl
  | setSession session key value => exact .alone _ rfl
  | refuseSession session => exact .alone _ rfl
  | setApplication key value => exact .alone _ rfl
  | runRequest action payload => exact .tabs (scenario.app.requestChanges_onTab now action payload)
  | runAction id action signals =>
    exact .tabs (scenario.app.actionChanges_onTab now id action signals)
  | subscribe id => exact .tabs (scenario.app.subscribeChanges_onTab id)
  | refresh id => exact .tabs (scenario.app.refreshChanges_onTab id)
  | poll number limit =>
    refine .tabs ?_
    rw [changes, pollChanges]
    split
    · rfl
    · split
      · rfl
      · exact scenario.app.takeChanges_onTab _ _
  | subscribeTo target =>
    refine .tabs ?_
    rw [changes]
    cases scenario.place? target <;> rfl
  | pop target =>
    refine .tabs ?_
    rw [changes]
    cases scenario.find? target <;> rfl
  | drain target =>
    refine .tabs ?_
    rw [changes]
    cases scenario.find? target <;> rfl
  | direct target mode action body =>
    refine .tabs ?_
    rw [changes, directChanges]
    cases scenario.find? target <;> rfl
  | _ => exact .tabs rfl

end LiveTabs
