import LiveTabs.Proofs.Containment
import LiveTabs.Proofs.Registry
/-!
What a step refreshes. One that finds a connection under its id refreshes the connection and the
session that it carries; one that comes with the cookie of a session refreshes the session.
-/
namespace LiveTabs

namespace Step

/-- The id of the connection that a step is about and refreshes. -/
def tabId? : Step → Option String
  | .runAction id _ _ => some id
  | .runRequest _ payload => (ClientRequest.parse payload).toOption.map (·.connection)
  | .subscribe id => some id
  | .refresh id => some id
  | _ => none

/-- The session that a step refreshes by itself. -/
def refreshed? : Step → Option String
  | .refreshSession id => some id
  | _ => none

end Step

/-- Refreshes a connection or a session. -/
def Change.refreshing : Change → Bool
  | .touch _ => true
  | .refreshSession _ => true
  | _ => false

/-- A session that a cookie named is refreshed; a new one is not. -/
def CookieSession.renewal (session : CookieSession) : List Change :=
  if session.minted then [] else [.refreshSession session.id]

namespace CookieSession

theorem touch_not_mem_renewal (session : CookieSession) (place : Nat) :
    .touch place ∉ session.renewal := by
  unfold renewal
  split <;> simp

theorem refreshSession_mem_renewal {session : CookieSession} {id : String} :
    .refreshSession id ∈ session.renewal ↔ session = ⟨id, false⟩ := by
  obtain ⟨named, minted⟩ := session
  cases minted <;> simp [renewal, eq_comm]

end CookieSession

namespace App

theorem refreshChanges_refreshing (app : App) (id : String) :
    (app.refreshChanges id).filter Change.refreshing = app.refreshChanges id :=
  List.filter_eq_self.mpr
    (List.all_eq_true.mp (refreshChanges_all (fun _ => rfl) (fun _ => rfl) app id))

theorem takeChanges_refreshing (app : App) (channel : PushChannel) (limit : Nat) :
    (app.takeChanges channel limit).filter Change.refreshing = [] := by
  have others : (app.takeChanges channel limit).all (!·.refreshing) = true :=
    takeChanges_all rfl app limit
  simpa [List.filter_eq_nil_iff] using others

theorem actionChanges_refreshing (app : App) (now : Instant) (id action : String)
    (signals : KeyMap Json) :
    (app.actionChanges now id action signals).filter Change.refreshing = app.refreshChanges id := by
  cases placed : app.place? id with
  | none => simp [actionChanges, refreshChanges, placed]
  | some place =>
    cases found : app.lookup id with
    | none =>
      have kept : (app.refresh now id).1 = app := by simp only [refresh, placed, found]
      simp [actionChanges, refreshChanges, placed, kept, found]
    | some connection =>
      have there := lookup_refresh placed (found_of_lookup placed found) now
      simp only [actionChanges, placed, there, List.filter_append, refreshChanges_refreshing]
      cases (connection.refresh now).page.handler? action <;>
        simp [Change.refreshing]

theorem sessionChanges_refreshing (app : App) (now : Instant) (cookie : Option String) :
    (app.sessionChanges now cookie).filter Change.refreshing =
      (app.sessionFor now cookie).2.renewal := by
  unfold sessionChanges CookieSession.renewal
  dsimp only
  split <;> rfl

theorem pageChanges_refreshing (app : App) (now : Instant) (route : String)
    (cookie : Option String) :
    (app.pageChanges now route cookie).filter Change.refreshing =
      match app.pages.get? route with
      | none => []
      | some _ => (app.sessionFor now cookie).2.renewal := by
  unfold pageChanges
  cases app.pages.get? route with
  | none => rfl
  | some page =>
    dsimp only
    rw [List.append_assoc, List.filter_append, sessionChanges_refreshing]
    split <;> exact List.append_nil _

section
variable {app : App} (exact : app.Exact) {id : String}
include exact

theorem touch_mem_refreshChanges {place : Nat} :
    .touch place ∈ app.refreshChanges id ↔ app.place? id = some place := by
  cases placed : app.place? id with
  | none => simp [refreshChanges, placed]
  | some other =>
    obtain ⟨connection, here, -⟩ := exact.standing id other placed
    simp [refreshChanges, placed, lookup_placed placed here, eq_comm]

theorem refreshSession_mem_refreshChanges {session : String} :
    .refreshSession session ∈ app.refreshChanges id ↔ ∃ place connection,
      app.place? id = some place ∧ app.connections[place]? = some connection ∧
        connection.session = some session := by
  cases placed : app.place? id with
  | none => simp [refreshChanges, placed]
  | some place =>
    obtain ⟨connection, here, -⟩ := exact.standing id place placed
    simp [refreshChanges, placed, lookup_placed placed here, here]

end
end App

namespace Scenario

/-- The session that a step resolves a cookie to. -/
def resolved? (scenario : Scenario) (now : Instant) : Step → Option CookieSession
  | .render route cookie =>
    (scenario.app.pages.get? route).map fun _ => (scenario.app.sessionFor now cookie).2
  | .resolve cookie => some (scenario.app.sessionFor now cookie).2
  | _ => none

/-- All that a step refreshes. -/
def refreshings (scenario : Scenario) (now : Instant) (direct : Step) : List Change :=
  direct.tabId?.toList.flatMap scenario.app.refreshChanges ++
    (scenario.resolved? now direct).toList.flatMap CookieSession.renewal ++
    direct.refreshed?.toList.map .refreshSession

theorem changes_refreshing (scenario : Scenario) (now : Instant) {direct : Step}
    (plainly : ∀ made, direct ≠ .request made) :
    (scenario.changes now direct).filter Change.refreshing = scenario.refreshings now direct := by
  cases direct with
  | request made => exact absurd rfl (plainly made)
  | runAction id action signals =>
    rw [changes, App.actionChanges_refreshing]
    simp [refreshings, Step.tabId?, resolved?, Step.refreshed?]
  | runRequest action payload =>
    cases parsed : ClientRequest.parse payload with
    | error refused =>
      simp [changes, App.requestChanges, parsed, refreshings, Step.tabId?, resolved?,
        Step.refreshed?, Except.toOption]
    | ok request =>
      simpa [changes, App.requestChanges, parsed, refreshings, Step.tabId?, resolved?,
        Step.refreshed?, Except.toOption] using
        scenario.app.actionChanges_refreshing now request.connection action request.signals
  | subscribe id =>
    have tab := scenario.app.refreshChanges_refreshing id
    cases placed : scenario.app.place? id with
    | none =>
      simp [changes, App.subscribeChanges, App.refreshChanges, placed, refreshings, Step.tabId?,
        resolved?, Step.refreshed?]
    | some place =>
      simp [changes, App.subscribeChanges, placed, refreshings, Step.tabId?, resolved?,
        Step.refreshed?, tab, Change.refreshing]
  | refresh id =>
    rw [changes, App.refreshChanges_refreshing]
    simp [refreshings, Step.tabId?, resolved?, Step.refreshed?]
  | poll number limit =>
    rw [changes, pollChanges]
    split
    · rfl
    · split
      · rfl
      · exact scenario.app.takeChanges_refreshing _ _
  | render route cookie =>
    rw [changes, App.pageChanges_refreshing]
    cases routed : scenario.app.pages.get? route <;>
      simp [refreshings, resolved?, Step.tabId?, Step.refreshed?, routed]
  | resolve cookie =>
    rw [changes, App.sessionChanges_refreshing]
    simp [refreshings, resolved?, Step.tabId?, Step.refreshed?]
  | subscribeTo target =>
    rw [changes]
    cases scenario.place? target <;> rfl
  | pop target =>
    rw [changes]
    cases scenario.find? target <;> rfl
  | drain target =>
    rw [changes]
    cases scenario.find? target <;> rfl
  | direct target mode action body =>
    rw [changes, directChanges]
    cases scenario.find? target <;> rfl
  | runSweeper ttl =>
    rw [changes]
    split <;> rfl
  | _ => rfl

/-- A dispatch, whatever its outcome, or the opening of a push channel, or a refresh, finds the
connection at a place under its id. -/
def Touches (scenario : Scenario) (place : Nat) (step : Step) : Prop :=
  ∃ direct id, step.meant? scenario.app = some direct ∧ direct.tabId? = some id ∧
    scenario.app.place? id = some place

/-- A step comes with the cookie of a session, finds a connection that carries the id, or refreshes
the session itself. -/
def Renews (scenario : Scenario) (session : String) (now : Instant) (step : Step) : Prop :=
  (∃ direct, step.meant? scenario.app = some direct ∧
    (scenario.resolved? now direct = some ⟨session, false⟩ ∨
      direct = .refreshSession session)) ∨
  ∃ place connection, scenario.Touches place step ∧
    scenario.app.connections[place]? = some connection ∧ connection.session = some session

theorem mem_changes_iff {scenario : Scenario} {now : Instant} {step : Step} {change : Change}
    (refreshing : change.refreshing = true) :
    change ∈ scenario.changes now step ↔
      ∃ direct, step.meant? scenario.app = some direct ∧
        change ∈ scenario.refreshings now direct := by
  rw [changes_meant]
  cases meant : step.meant? scenario.app with
  | none => simp
  | some direct =>
    have same := scenario.changes_refreshing now (Step.meant?_direct meant)
    simp [← same, refreshing]

theorem touch_mem_iff {scenario : Scenario} (exact : scenario.app.Exact) {now : Instant} {step : Step}
    {place : Nat} : .touch place ∈ scenario.changes now step ↔ scenario.Touches place step := by
  rw [mem_changes_iff rfl, Touches]
  refine exists_congr fun direct => ?_
  simp [refreshings, App.touch_mem_refreshChanges exact, CookieSession.touch_not_mem_renewal]

theorem refreshSession_mem_iff {scenario : Scenario} (exact : scenario.app.Exact) {now : Instant}
    {step : Step} {session : String} :
    .refreshSession session ∈ scenario.changes now step ↔ scenario.Renews session now step := by
  rw [mem_changes_iff rfl, Renews]
  have own {direct : Step} : direct.refreshed? = some session ↔
      direct = .refreshSession session := by
    cases direct <;> simp [Step.refreshed?]
  simp only [refreshings, List.mem_append, List.mem_flatMap, List.mem_map, Option.mem_toList,
    App.refreshSession_mem_refreshChanges exact, CookieSession.refreshSession_mem_renewal,
    Change.refreshSession.injEq, exists_eq_right, own]
  constructor
  · rintro ⟨direct, meant, (⟨id, asks, place, connection, placed, here, carries⟩ | resolved) | itself⟩
    · exact .inr ⟨place, connection, ⟨direct, id, meant, asks, placed⟩, here, carries⟩
    · exact .inl ⟨direct, meant, .inl resolved⟩
    · exact .inl ⟨direct, meant, .inr itself⟩
  · rintro (⟨direct, meant, resolved | itself⟩ |
      ⟨place, connection, ⟨direct, id, meant, asks, placed⟩, here, carries⟩)
    · exact ⟨direct, meant, .inl (.inr resolved)⟩
    · exact ⟨direct, meant, .inr itself⟩
    · exact ⟨direct, meant, .inl (.inl ⟨id, asks, place, connection, placed, here, carries⟩)⟩

end Scenario
end LiveTabs
