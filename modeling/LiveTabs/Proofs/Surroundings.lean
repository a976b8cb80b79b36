import LiveTabs.Proofs.Continuity
import LiveTabs.Proofs.Registry
import LiveTabs.Proofs.Routing
/-!
Connections are found from outside by their places: those that somebody holds, and those that a push
channel was opened on. In every run there is a connection at each of these places.
-/
namespace LiveTabs

namespace App

/-- A channel is opened on a connection that is there. -/
theorem subscribeAt_within {app : App} {place : Nat} {channel : PushChannel}
    (opened : (app.subscribeAt place).2 = some channel) :
    channel.place < (app.subscribeAt place).1.connections.length := by
  unfold subscribeAt at opened ⊢
  split at opened
  · cases opened
  · next connection found =>
    cases opened
    simpa [setConnection] using (List.getElem?_eq_some_iff.mp found).1

theorem subscribe_within {app : App} {now : Instant} {id : String} {channel : PushChannel}
    (opened : (app.subscribe now id).2 = some channel) :
    channel.place < (app.subscribe now id).1.connections.length := by
  unfold subscribe at opened ⊢
  cases placed : app.place? id with
  | none => simp [placed] at opened
  | some place =>
    simp only [placed] at opened ⊢
    exact subscribeAt_within opened

end App

namespace Http

/-- Answers that have no push channel, or one of a connection that is there. -/
def Body.Within (app : App) : Body → Prop
  | .text _ => True
  | .events channel => channel.place < app.connections.length

theorem servePage_within (app : App) (now : Instant) (route : String) (request : Request) :
    let served := servePage app now route request
    served.2.body.Within served.1 := by
  unfold servePage
  dsimp only
  split
  · split
    · split <;> trivial
    · trivial
  · trivial
  · trivial

theorem serveEvents_within (app : App) (now : Instant) (query : List Char) :
    let served := serveEvents app now query
    served.2.body.Within served.1 := by
  unfold serveEvents
  split
  · next id _ =>
    have within := @App.subscribe_within app now id
    split
    · next opened =>
      rw [opened] at within
      exact within rfl
    · trivial
  · trivial

theorem serveAction_within (app : App) (now : Instant) (segment query : List Char) :
    let served := serveAction app now segment query
    served.2.2.body.Within served.1 := by
  unfold serveAction
  split
  · split <;> trivial
  · trivial

theorem serveClose_within (app : App) (body : Bytes) :
    let served := serveClose app body
    served.2.body.Within served.1 := by
  unfold serveClose
  split <;> trivial

theorem wanted_within {app : App} {request : Request} {response : Response}
    (within : response.body.Within app) : (request.wanted response).body.Within app := by
  obtain ⟨status, setCookie, contentType, body⟩ := response
  unfold Request.wanted
  split
  · cases body with
    | text s => trivial
    | events channel => exact within
  · exact within

theorem handle_within (app : App) (now : Instant) (request : Request) :
    let handled := handle app now request
    handled.2.2.body.Within handled.1 := by
  obtain ⟨served, way, handled⟩ := handle_served app now request
  have within : served.2.2.body.Within served.1 := by
    cases way with
    | refused status => trivial
    | page reads leads => exact servePage_within app now _ request
    | events query => exact serveEvents_within app now query
    | action segment query => exact serveAction_within app now segment query
    | close body => exact serveClose_within app body
  rw [handled]
  exact wanted_within within

end Http

namespace Scenario

/-- Where the connections lie that somebody holds, or has opened a push channel on. -/
def places (scenario : Scenario) : List Nat :=
  scenario.held ++ scenario.listeners.map fun listener => listener.channel.place

theorem dropChannel_places (scenario : Scenario) (number : Nat) :
    (scenario.dropChannel number).places = scenario.places := by
  have same :
      (scenario.listeners.modify number fun listener => { listener with dropped := true }).map
        (fun listener => listener.channel.place) =
      scenario.listeners.map fun listener => listener.channel.place := by
    apply List.ext_getElem?
    intro other
    simp only [List.getElem?_map, List.getElem?_modify]
    cases scenario.listeners[other]? with
    | none => simp
    | some listener => by_cases here : number = other <;> simp [here]
  simp only [places, dropChannel, same]

theorem onConnection_places (scenario : Scenario) (target : Target)
    (act : Connection → Connection × Answer) :
    (scenario.onConnection target act).scenario.places = scenario.places := by
  unfold onConnection
  split <;> rfl

theorem poll_places (scenario : Scenario) (number : Nat) (limit : Option Nat) :
    (scenario.poll number limit).scenario.places = scenario.places := by
  unfold poll
  split
  · rfl
  · split
    · rfl
    · split <;> rfl

theorem direct_places (scenario : Scenario) (now : Instant) (target : Target) (mode : Mode)
    (action : String) (body : List DirectStatement) :
    (scenario.direct now target mode action body).scenario.places = scenario.places := by
  unfold direct
  split <;> rfl

/-- All that is held or listened to is there. -/
def Standing (scenario : Scenario) : Prop :=
  ∀ place ∈ scenario.places, place < scenario.app.connections.length

theorem Standing.place?_within {scenario : Scenario} (standing : scenario.Standing)
    (exact : scenario.app.Exact) {target : Target} {place : Nat}
    (found : scenario.place? target = some place) : place < scenario.app.connections.length := by
  cases target with
  | registered id =>
    obtain ⟨connection, here, -⟩ := exact.standing id place found
    exact (List.getElem?_eq_some_iff.mp here).1
  | held number => exact standing place (List.mem_append_left _ (List.mem_of_getElem? found))

section
variable {scenario : Scenario} (standing : scenario.Standing)
include standing

theorem Standing.kept {after : Scenario} (same : after.places = scenario.places)
    (grown : scenario.app.connections.length ≤ after.app.connections.length) : after.Standing :=
  fun place member => Nat.lt_of_lt_of_le (standing place (same ▸ member)) grown

theorem Standing.added {after : Scenario} {place : Nat}
    (added : ∀ other ∈ after.places, other ∈ scenario.places ∨ other = place)
    (within : place < after.app.connections.length)
    (grown : scenario.app.connections.length ≤ after.app.connections.length) : after.Standing := by
  intro other member
  rcases added other member with old | rfl
  · exact Nat.lt_of_lt_of_le (standing other old) grown
  · exact within

theorem Standing.listened {opened : App × Option PushChannel}
    (within : ∀ channel, opened.2 = some channel → channel.place < opened.1.connections.length)
    (grown : scenario.app.connections.length ≤ opened.1.connections.length) :
    (scenario.listenAnswer opened).scenario.Standing := by
  obtain ⟨after, channel⟩ := opened
  cases channel with
  | none => exact standing.kept rfl grown
  | some channel =>
    have there := within channel rfl
    refine standing.added (fun other member => ?_) there grown
    simpa [listenAnswer, places, listen, withApp, answered, or_assoc] using member

theorem Standing.serve (now : Instant) (request : Http.Request)
    (grown : scenario.app.connections.length ≤
      (scenario.serve now request).scenario.app.connections.length) :
    (scenario.serve now request).scenario.Standing := by
  have within := Http.handle_within scenario.app now request
  unfold Scenario.serve at grown ⊢
  generalize Http.handle scenario.app now request = served at within grown ⊢
  obtain ⟨after, notes, status, setCookie, contentType, body⟩ := served
  cases body with
  | text s => exact standing.kept rfl grown
  | events channel =>
    have there : channel.place < after.connections.length := within
    refine standing.added (fun other member => ?_) there grown
    simpa [places, listen, withApp, or_assoc] using member

theorem Standing.hold (exact : scenario.app.Exact) (target : Target) :
    (scenario.hold target).scenario.Standing := by
  unfold Scenario.hold
  cases found : scenario.place? target with
  | none => exact standing
  | some place =>
    have there := standing.place?_within exact found
    refine standing.added (fun other member => ?_) there (Nat.le_refl _)
    simpa [places, answered, or_assoc, or_comm, or_left_comm] using member

theorem Standing.step (exact : scenario.app.Exact) (now : Instant) (step : Step) :
    (scenario.step now step).scenario.Standing := by
  have grown := (scenario.step_continues now step).length_le
  cases step with
  | subscribe id =>
    refine standing.listened (fun channel => App.subscribe_within) ?_
    simpa [Scenario.step, listenAnswer_app] using grown
  | subscribeTo target =>
    cases found : scenario.place? target with
    | none => simpa [Scenario.step, found, answered] using standing
    | some place =>
      simp only [Scenario.step, found, listenAnswer_app] at grown ⊢
      exact standing.listened (fun channel => App.subscribeAt_within) grown
  | hold target => exact standing.hold exact target
  | request request => exact standing.serve now request grown
  | dropChannel number => exact standing.kept (scenario.dropChannel_places number) grown
  | poll number limit => exact standing.kept (scenario.poll_places number limit) grown
  | pop target => exact standing.kept (scenario.onConnection_places target _) grown
  | drain target => exact standing.kept (scenario.onConnection_places target _) grown
  | direct target mode action body =>
    exact standing.kept (scenario.direct_places now target mode action body) grown
  | render route cookie =>
    refine standing.kept ?_ grown
    simp only [Scenario.step]
    split <;> rfl
  | runRequest action payload =>
    refine standing.kept ?_ grown
    simp only [Scenario.step]
    split <;> rfl
  | create id session page =>
    refine standing.kept ?_ grown
    simp only [Scenario.step]
    split <;> rfl
  | inspect target =>
    refine standing.kept ?_ grown
    simp only [Scenario.step]
    split <;> rfl
  | _ => exact standing.kept rfl grown

end

theorem standing_ofApp (app : App) : (ofApp app).Standing :=
  fun _ member => absurd member List.not_mem_nil

theorem reached_standing {scenario : Scenario} (exact : scenario.app.Exact)
    (standing : scenario.Standing) (steps : List (Instant × Step)) :
    (scenario.reached steps).Standing := by
  induction steps generalizing scenario with
  | nil => exact standing
  | cons first rest ih =>
    exact ih (reached_exact exact [first]) (standing.step exact first.1 first.2)

end Scenario
end LiveTabs
