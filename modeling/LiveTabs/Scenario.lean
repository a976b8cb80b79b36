import LiveTabs.Patch.Frame
import LiveTabs.Scenario.Step
/-!
Scenarios: an application and what its surroundings hold of it, which are connections by their
number and the push channels opened so far. Running steps one after another gives an answer for
each, together with the notes that handlers left during it.
-/
namespace LiveTabs

/-- A push channel in somebody's hands. Over HTTP its items come as frames. -/
structure Listener where
  channel : PushChannel
  framed : Bool
  dropped : Bool

structure Scenario where
  app : App
  held : List Nat
  listeners : List Listener

/-- What comes of a step. -/
structure Stepped where
  scenario : Scenario
  answer : Answer
  notes : List Note

namespace App

/-- Polls until there are as many items as wanted or a poll has none. -/
def take (app : App) (channel : PushChannel) : Nat → App × List Patch × Pause
  | 0 => (app, [], .enough)
  | limit + 1 =>
    match app.poll channel with
    | (after, .pending) => (after, [], .pending)
    | (after, .ended) => (after, [], .ended)
    | (after, .item patch) =>
      let others := after.take channel limit
      (others.1, patch :: others.2.1, others.2.2)

/-- More polls than these find nothing new on any channel of the connection. -/
def readyLimit (app : App) (channel : PushChannel) : Nat :=
  match app.connections[channel.place]? with
  | none => 1
  | some connection => connection.queue.pending.length + 1

def stats (app : App) : Stats :=
  ⟨app.registered.size, app.shared.sessions.live.size, app.shared.application.size⟩

/-- The background sweeper, started and stopped again. With no time to live at all it is waited for
until no connection is left; it does not come to sweep with any other. -/
def runSweeper (app : App) (now : Instant) (ttl : Option Duration) : App :=
  if ttl = some 0 ∧ app.registered.isEmpty = false then (app.sweep now 0).1 else app

end App

namespace Scenario

def ofApp (app : App) : Scenario := ⟨app, [], []⟩

def place? (scenario : Scenario) : Target → Option Nat
  | .registered id => scenario.app.place? id
  | .held number => scenario.held[number]?

/-- The place of a connection and the connection there. -/
def find? (scenario : Scenario) (target : Target) : Option (Nat × Connection) :=
  (scenario.place? target).bind fun place =>
    (scenario.app.connections[place]?).map fun connection => (place, connection)

def withApp (scenario : Scenario) (app : App) : Scenario := { scenario with app }

def answered (scenario : Scenario) (answer : Answer) : Stepped := ⟨scenario, answer, []⟩

/-- Puts a push channel into somebody's hands and numbers it. -/
def listen (scenario : Scenario) (channel : PushChannel) (framed : Bool) : Scenario × Nat :=
  ({ scenario with listeners := scenario.listeners ++ [⟨channel, framed, false⟩] },
    scenario.listeners.length)

def listenAnswer (scenario : Scenario) (opened : App × Option PushChannel) : Stepped :=
  match opened.2 with
  | none => (scenario.withApp opened.1).answered (.channel none)
  | some channel =>
    let listening := (scenario.withApp opened.1).listen channel false
    listening.1.answered (.channel (some listening.2))

def deliver (framed : Bool) (patch : Patch) : Delivery :=
  if framed then .frame patch.frame else .patch patch

def poll (scenario : Scenario) (number : Nat) (limit : Option Nat) : Stepped :=
  match scenario.listeners[number]? with
  | none => scenario.answered (.channel none)
  | some listener =>
    if limit = some 0 then scenario.answered (.polled [] .enough)
    else if listener.dropped then scenario.answered (.polled [] .dropped)
    else
      let (after, items, pause) := scenario.app.take listener.channel
        (limit.getD (scenario.app.readyLimit listener.channel))
      (scenario.withApp after).answered (.polled (items.map (deliver listener.framed)) pause)

def dropChannel (scenario : Scenario) (number : Nat) : Scenario :=
  { scenario with
    listeners := scenario.listeners.modify number fun listener => { listener with dropped := true } }

/-- A step on a connection: what becomes of the connection, and the answer. -/
def onConnection (scenario : Scenario) (target : Target)
    (act : Connection → Connection × Answer) : Stepped :=
  match scenario.find? target with
  | none => scenario.answered .notFound
  | some (place, connection) =>
    let (after, answer) := act connection
    (scenario.withApp (scenario.app.setConnection place after)).answered answer

def hold (scenario : Scenario) (target : Target) : Stepped :=
  match scenario.place? target with
  | none => scenario.answered (.held none)
  | some place =>
    { scenario with held := scenario.held ++ [place] }.answered
      (.held (some scenario.held.length))

def direct (scenario : Scenario) (now : Instant) (target : Target) (mode : Mode) (action : String)
    (body : List DirectStatement) : Stepped :=
  match scenario.find? target with
  | none => scenario.answered .notFound
  | some (place, connection) =>
    let (after, shared, replies) :=
      connection.direct scenario.app.shared now mode action body
    (scenario.withApp { scenario.app.setConnection place after with shared }).answered
      (.direct replies)

def serve (scenario : Scenario) (now : Instant) (request : Http.Request) : Stepped :=
  let (after, notes, response) := Http.handle scenario.app now request
  match response.body with
  | .text _ => ⟨scenario.withApp after, .response response none, notes⟩
  | .events channel =>
    let listening := (scenario.withApp after).listen channel true
    ⟨listening.1, .response response (some listening.2), notes⟩

/-- One step. Everything that it stamps is stamped with `now`. -/
def step (scenario : Scenario) (now : Instant) : Step → Stepped
  | .render route cookie =>
    match scenario.app.loadPage now route cookie with
    | (after, .ok page) => (scenario.withApp after).answered (.rendered page)
    | (after, .error error) => (scenario.withApp after).answered (.notRendered error)
  | .runRequest action payload =>
    match scenario.app.runRequest now action payload with
    | (after, notes, .ok outcome) => ⟨scenario.withApp after, .outcome outcome, notes⟩
    | (after, notes, .error error) => ⟨scenario.withApp after, .badPayload error, notes⟩
  | .runAction connection action signals =>
    let (after, notes, outcome) := scenario.app.runAction now connection action signals
    ⟨scenario.withApp after, .outcome outcome, notes⟩
  | .create connection session page =>
    match scenario.app.connect now connection session page with
    | none => scenario.answered .notCreated
    | some after => (scenario.withApp after).answered (.created connection session)
  | .subscribe connection =>
    scenario.listenAnswer (scenario.app.subscribe now connection)
  | .subscribeTo target =>
    match scenario.place? target with
    | none => scenario.answered (.channel none)
    | some place => scenario.listenAnswer (scenario.app.subscribeAt place)
  | .poll channel limit => scenario.poll channel limit
  | .dropChannel channel => (scenario.dropChannel channel).answered .done
  | .pop target =>
    scenario.onConnection target fun connection =>
      let (after, patch) := connection.pop
      (after, .patch patch)
  | .drain target =>
    scenario.onConnection target fun connection =>
      let (after, patches) := connection.drain
      (after, .patches patches)
  | .inspect target =>
    match scenario.find? target with
    | none => scenario.answered .notFound
    | some (_, connection) => scenario.answered (.inspected connection)
  | .hold target => scenario.hold target
  | .direct target mode action body => scenario.direct now target mode action body
  | .close connection =>
    let (after, found) := scenario.app.close connection
    (scenario.withApp after).answered (.closed found)
  | .refresh connection =>
    let (after, found) := scenario.app.refresh now connection
    (scenario.withApp after).answered (.refreshed found)
  | .sweep instant ttl =>
    let (after, report) := scenario.app.sweep instant ttl
    (scenario.withApp after).answered (.swept report)
  | .sweepNow ttl =>
    let (after, report) := scenario.app.sweep now ttl
    (scenario.withApp after).answered (.swept report)
  | .runSweeper ttl =>
    let after := scenario.app.runSweeper now ttl
    (scenario.withApp after).answered (.sweeperStopped after.registered.size)
  | .stats => scenario.answered (.stats scenario.app.stats)
  | .resolve cookie =>
    let (after, session) := scenario.app.sessionFor now cookie
    (scenario.withApp after).answered (.resolved session)
  | .session session key =>
    let sessions := scenario.app.shared.sessions
    scenario.answered
      (.session (sessions.contains session) (sessions.isRefused session)
        (key.bind (sessions.get? session)))
  | .setSession session key value =>
    let (after, accepted) := scenario.app.shared.sessions.set now session key value
    (scenario.withApp (scenario.app.withSessions after)).answered (.stored accepted)
  | .refreshSession session =>
    (scenario.withApp
      (scenario.app.withSessions (scenario.app.shared.sessions.refresh now session))).answered .done
  | .refuseSession session =>
    (scenario.withApp (scenario.app.refuseSession now session)).answered .done
  | .application key => scenario.answered (.value (scenario.app.shared.application.get? key))
  | .setApplication key value =>
    (scenario.withApp (scenario.app.setApplication key value)).answered .done
  | .request request => scenario.serve now request

/-- A step begins at an even instant and stamps everything with the odd one after it. -/
def startOf (step : Nat) : Instant := 2 * step

def stampOf (step : Nat) : Instant := startOf step + 1

/-- Runs steps in order; the first has the given number. -/
def runFrom (scenario : Scenario) (number : Nat) : List Step → List (Answer × List Note)
  | [] => []
  | step :: rest =>
    let stepped := scenario.step (stampOf number) step
    (stepped.answer, stepped.notes) :: stepped.scenario.runFrom (number + 1) rest

def run (scenario : Scenario) (steps : List Step) : List (Answer × List Note) :=
  scenario.runFrom 0 steps

end Scenario
end LiveTabs
