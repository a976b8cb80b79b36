import LiveTabs.Proofs.Pairing
/-!
Tabs of other sessions cannot interfere. Actions that are run in them can be left out of a run, and
whoever looks at the tabs of a session sees the same and is answered the same.
-/
namespace LiveTabs

/-- All that there is to see of a session: its tabs, each at its place and with all that is in it,
the ids that lead to them, its entry and its refusal, and the values of the application. -/
structure Seen where
  tab : Nat → Option Connection
  lead : String → Option Nat
  entry : Option Session
  refusal : Option Instant
  application : KeyMap Json

def App.seen (app : App) (session : String) : Seen where
  tab := app.own? session
  lead := app.lead? session
  entry := app.shared.sessions.live.get? session
  refusal := app.shared.sessions.refused.get? session
  application := app.shared.application

/-- A step with all that it takes from its surroundings: the ids that it would generate, and what is
held of the application. An added round is one that may be left out. -/
structure Round where
  ids : IdSource
  held : List Nat
  listeners : List Listener
  now : Instant
  step : Step
  added : Bool

namespace Round

def before (round : Round) (app : App) : Scenario :=
  ⟨{ app with ids := round.ids }, round.held, round.listeners⟩

def on (round : Round) (app : App) : Stepped := (round.before app).step round.now round.step

def after (round : Round) (app : App) : App := (round.on app).scenario.app

/-- What is answered, if it concerns the session. -/
def told (round : Round) (session : String) (app : App) : Option (Answer × List Note) :=
  if (round.before app).concerns session round.now round.step then
    some ((round.on app).answer, (round.on app).notes)
  else none

/-- The values of the application change only in a tab of the session, if not from outside. -/
def Reserved (session : String) (app : App) (round : Round) : Prop :=
  (round.before app).Reserved session round.now round.step

/-- A generated session is none that is there already, and the background sweeper is not waited for
because of other tabs alone. -/
structure Regular (session : String) (app : App) (round : Round) : Prop where
  fresh : IdSource.sessionId round.ids.sessions ≠ session
  reserved : round.Reserved session app
  waits : round.step = .runSweeper (some 0) → ∃ id place, app.lead? session id = some place

/-- Asks for an action, and not in a tab of the session. -/
structure Foreign (session : String) (app : App) (round : Round) : Prop where
  dispatches : ∃ direct, round.step.meant? app = some direct ∧ direct.dispatches = true
  elsewhere : (round.before app).tab? session round.step = none

end Round

/-- What there is to see before a round, and what is answered then. -/
structure Sight where
  seen : Seen
  told : Option (Answer × List Note)

namespace App

/-- What is to be seen of a session along a run, except at the added rounds. -/
def watch (session : String) (app : App) : List Round → List Sight
  | [] => [⟨app.seen session, none⟩]
  | round :: rest =>
    let later := (round.after app).watch session rest
    if round.added then later else ⟨app.seen session, round.told session app⟩ :: later

/-- Holds of each round where a run comes to it. -/
def Throughout (holds : App → Round → Prop) (app : App) : List Round → Prop
  | [] => True
  | round :: rest => holds app round ∧ (round.after app).Throughout holds rest

variable {session : String} {left right : App}

theorem Agrees.seen (agrees : left.Agrees session right) (exact : left.Exact)
    (also : right.Exact) : left.seen session = right.seen session := by
  have tabs := funext agrees.own
  have leads := funext (agrees.lead exact also)
  simp only [App.seen, tabs, leads, agrees.sessions.entry, agrees.sessions.refusal,
    agrees.application]

theorem Exact.after {app : App} (exact : app.Exact) (round : Round) : (round.after app).Exact := by
  have begun : (round.before app).app.Exact := ⟨exact.open_iff, exact.standing⟩
  exact Scenario.reached_exact begun [(round.now, round.step)]

end App

namespace Round
variable {session : String} {left right : App} {round : Round}

theorem paired (agrees : left.Agrees session right) (exact : left.Exact) (also : right.Exact) :
    (round.before left).Paired session (round.before right) where
  agrees := ⟨⟨agrees.pages, agrees.config, agrees.count, agrees.own, agrees.sessions⟩,
    agrees.application⟩
  exact := ⟨exact.open_iff, exact.standing⟩
  also := ⟨also.open_iff, also.standing⟩
  ids := rfl
  held := rfl
  listeners := rfl

theorem told_same (paired : (round.before left).Paired session (round.before right))
    (fresh : IdSource.sessionId round.ids.sessions ≠ session) :
    round.told session left = round.told session right := by
  unfold told
  rw [paired.concerns fresh]
  split
  · next concerned =>
    obtain ⟨answer, notes⟩ := paired.told fresh ((paired.concerns fresh _ _).trans concerned)
    rw [on, on, answer, notes]
  · rfl

/-- An action in another tab that leaves the values of the application leaves all. -/
theorem Foreign.passes {app : App} (foreign : round.Foreign session app)
    (reserved : round.Reserved session app) : app.Agrees session (round.after app) := by
  obtain ⟨direct, meant, runs⟩ := foreign.dispatches
  have same : round.after app = ((round.before app).step round.now direct).scenario.app :=
    Scenario.step_meant meant
  have elsewhere := foreign.elsewhere
  rw [Scenario.tab?_meant meant] at elsewhere
  have aside := Scenario.alike_aside round.now (Step.meant?_direct meant) elsewhere
    (.inr (.inl runs))
  have kept : (round.after app).shared.application = app.shared.application := by
    rcases reserved with mine | ⟨key, value, sets⟩ | kept
    · rw [foreign.elsewhere] at mine
      nomatch mine
    · rw [sets] at meant
      obtain rfl := Option.some.inj meant
      nomatch runs
    · exact kept
  rw [same] at kept ⊢
  exact ⟨⟨aside.pages, aside.config, aside.count, aside.own, aside.sessions⟩, kept.symm⟩

end Round

namespace App
variable {session : String}

theorem watch_agrees {left right : App} (agrees : left.Agrees session right) (exact : left.Exact)
    (also : right.Exact) {rounds : List Round}
    (together : left.Throughout (fun app round => round.Reserved session app ∧
      (round.added = true → round.Foreign session app)) rounds)
    (alone : right.Throughout (Round.Regular session) (rounds.filter (!·.added))) :
    left.watch session rounds = right.watch session (rounds.filter (!·.added)) := by
  induction rounds generalizing left right with
  | nil => rw [List.filter_nil, watch, watch, agrees.seen exact also]
  | cons round rest ih =>
    obtain ⟨⟨reserved, foreign⟩, later⟩ := together
    cases added : round.added with
    | true =>
      have passed := (foreign added).passes reserved
      rw [List.filter_cons_of_neg (by simp [added])] at alone ⊢
      rw [watch, if_pos added]
      exact ih (passed.symm.trans agrees) (exact.after round) also later alone
    | false =>
      rw [List.filter_cons_of_pos (by simp [added])] at alone ⊢
      obtain ⟨⟨fresh, right_reserved, waits⟩, right_later⟩ := alone
      have paired := round.paired agrees exact also
      have stepped : (round.after left).Agrees session (round.after right) := by
        refine paired.step fresh reserved right_reserved fun asks => ?_
        obtain ⟨id, place, led⟩ := waits asks
        exact ⟨id, place, (agrees.lead exact also id).trans led⟩
      have kept : ¬ round.added = true := by simp [added]
      rw [watch, watch, if_neg kept, if_neg kept, Round.told_same paired fresh,
        agrees.seen exact also, ih stepped (exact.after round) (also.after round) later right_later]

end App

/-- A run as rounds, some of its steps added. -/
def Scenario.rounds (scenario : Scenario) : List (Instant × Step × Bool) → List Round
  | [] => []
  | (now, step, added) :: rest =>
    ⟨scenario.app.ids, scenario.held, scenario.listeners, now, step, added⟩ ::
      (scenario.step now step).scenario.rounds rest

/-- After any run, actions in tabs of other sessions that leave the values of the application can be
added to what follows: whoever watches a session sees the same and is answered the same. In both
runs the values of the application change only in tabs of the session, or from outside. -/
theorem foreign_actions_unseen {config : Config} {pages : List Page} {app : App}
    (built : App.build config pages = .ok app) (past : List (Instant × Step)) {session : String}
    {rounds : List Round}
    (together : ((Scenario.ofApp app).reached past).app.Throughout (fun app round =>
      round.Reserved session app ∧ (round.added = true → round.Foreign session app)) rounds)
    (alone : ((Scenario.ofApp app).reached past).app.Throughout (Round.Regular session)
      (rounds.filter (!·.added))) :
    let start := ((Scenario.ofApp app).reached past).app
    start.watch session rounds = start.watch session (rounds.filter (!·.added)) := by
  intro start
  have exact : start.Exact := Scenario.reached_exact (App.exact_of_built built) past
  exact App.watch_agrees (App.Agrees.refl start) exact exact together alone

-- Anybody paints the motto of all; a tab that leaves its session panics over it.
def mottoHandle : State .string := ⟨"motto", .application, "none"⟩

def nickHandle : State .string := ⟨"nick", .session, ""⟩

def wallPage : Page := .of {
  id := "wall"
  route := some "/"
  view := []
  states := [⟨"motto", .str "none", .application, none⟩, ⟨"nick", .str "", .session, none⟩]
  signals := []
  actions := KeyMap.ofList [
    ("peek", [.log (.state ⟨.string, mottoHandle⟩)]),
    ("paint", [.set (some ⟨.string, mottoHandle⟩) (.literal (.str "hello"))]),
    ("ping", []),
    ("leave", [.set (some ⟨.string, nickHandle⟩) (.literal (.str "ann")), .refuseSession, .panic])]
  owners := KeyMap.empty
  components := [] }

def wallApp : App :=
  ⟨KeyMap.ofList [("/", wallPage)], Config.defaults, Shared.empty, [], KeyMap.empty, ⟨0, 0⟩⟩

def twoVisits : List (Instant × Step) := [(1, .render "/" none), (3, .render "/" none)]

def neighbourLeaves : List Round :=
  ((Scenario.ofApp wallApp).reached twoVisits).rounds
    [(5, .runAction "@conn0@" "leave" KeyMap.empty, true),
      (7, .runAction "@conn1@" "paint" KeyMap.empty, false),
      (9, .runAction "@conn1@" "peek" KeyMap.empty, false)]

theorem foreign_actions_unseen_leaving :
    App.build Config.defaults [wallPage] = .ok wallApp ∧
    let start := ((Scenario.ofApp wallApp).reached twoVisits).app
    (start.Throughout (fun app round => round.Reserved "@sess1@" app ∧
      (round.added = true → round.Foreign "@sess1@" app)) neighbourLeaves) ∧
    start.Throughout (Round.Regular "@sess1@") (neighbourLeaves.filter (!·.added)) ∧
    start.watch "@sess1@" neighbourLeaves = start.watch "@sess1@" (neighbourLeaves.filter (!·.added)) := by
  have together : ((Scenario.ofApp wallApp).reached twoVisits).app.Throughout (fun app round =>
      round.Reserved "@sess1@" app ∧ (round.added = true → round.Foreign "@sess1@" app)) neighbourLeaves :=
    ⟨⟨.inr (.inr rfl), fun _ => ⟨⟨_, rfl, rfl⟩, rfl⟩⟩, ⟨.inl rfl, nofun⟩, ⟨.inl rfl, nofun⟩, trivial⟩
  have alone : ((Scenario.ofApp wallApp).reached twoVisits).app.Throughout (Round.Regular "@sess1@")
      (neighbourLeaves.filter (!·.added)) :=
    ⟨⟨by decide, .inl rfl, nofun⟩, ⟨by decide, .inl rfl, nofun⟩, trivial⟩
  have built : App.build Config.defaults [wallPage] = .ok wallApp := rfl
  exact ⟨built, together, alone, foreign_actions_unseen built twoVisits together alone⟩

-- A tab about to expire is kept by an added action, and what it is asked for later is done.
def neighbourStays : List Round :=
  ((Scenario.ofApp wallApp).reached twoVisits).rounds
    [(5, .runAction "@conn0@" "ping" KeyMap.empty, true),
      (7, .sweep 8 5, false),
      (9, .runAction "@conn0@" "paint" KeyMap.empty, false),
      (11, .runAction "@conn1@" "peek" KeyMap.empty, false)]

/-- It is not enough that the values of the application are left alone where nothing is added. -/
theorem foreign_action_keeps_painter :
    App.build Config.defaults [wallPage] = .ok wallApp ∧
    let start := ((Scenario.ofApp wallApp).reached twoVisits).app
    (start.own? "@sess1@" 1).isSome = true ∧
    (start.Throughout (fun app round => round.added = true →
      round.Reserved "@sess1@" app ∧ round.Foreign "@sess1@" app) neighbourStays) ∧
    start.Throughout (Round.Regular "@sess1@") (neighbourStays.filter (!·.added)) ∧
    start.watch "@sess1@" neighbourStays ≠
      start.watch "@sess1@" (neighbourStays.filter (!·.added)) := by
  refine ⟨rfl, rfl, ⟨fun _ => ⟨.inr (.inr rfl), ⟨_, rfl, rfl⟩, rfl⟩, nofun, nofun, nofun, trivial⟩,
    ⟨⟨by decide, .inr (.inr rfl), nofun⟩, ⟨by decide, .inr (.inr rfl), nofun⟩,
      ⟨by decide, .inl rfl, nofun⟩, trivial⟩, fun same => ?_⟩
  have notes := congrArg (fun sights => sights.map fun sight => sight.told.map Prod.snd) same
  have texts : [none, none, some [Note.text "\"hello\""], none] =
      [none, none, some [Note.text "\"none\""], none] := notes
  simp at texts

end LiveTabs
