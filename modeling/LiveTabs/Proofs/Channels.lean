import LiveTabs.Proofs.Delivery
/-!
Of all the push channels ever opened on a connection only the newest yields patches, and it does so
only as long as the connection is open. Any older one is over for good, and so is every channel of
a connection that was closed, replaced or swept away.
-/
namespace LiveTabs

namespace Connection

/-- What a poll of a channel finds. If the channel is over it takes nothing; or else it is the newest
channel of an open connection and takes the first patch that waits. -/
structure Finds (connection : Connection) (gone : Prop) (polled : Connection × Polled) : Prop where
  ended : gone → polled = (connection, .ended)
  newest : ¬ gone → connection.isClosed = false ∧
    ((connection.queue.pending = [] ∧ polled = (connection, .pending)) ∨
      ∃ patch rest, connection.queue.pending = patch :: rest ∧
        polled = ({ connection with queue := { connection.queue with pending := rest } },
          .item patch))

/-- The connection has gone past a channel, or is closed. -/
def Past (generation : Nat) (connection : Connection) : Prop :=
  ∀ current, connection.channel = .opened current → generation < current

theorem isClosed_iff (connection : Connection) :
    connection.isClosed = true ↔ connection.channel = .closed :=
  beq_iff_eq

theorem subscribe_closed {connection : Connection} (closed : connection.channel = .closed) :
    connection.subscribe = (connection, 0) := by
  simp [subscribe, closed]

theorem subscribe_opened {connection : Connection} {generation : Nat}
    (opened : connection.channel = .opened generation) :
    connection.subscribe =
      ({ connection with channel := .opened (generation + 1) }, generation + 1) := by
  simp [subscribe, opened]

/-- Short of opening a channel, shutting down and refreshing, only the tab and its queue change. -/
theorem undergo_inside (connection : Connection) {passage : Passage}
    (opens : passage ≠ .move .subscribe) (shuts : passage ≠ .move .retire)
    (refreshes : ∀ now, passage ≠ .move (.refresh now)) :
    ∃ tab queue, connection.undergo passage = { connection with tab, queue } := by
  cases passage with
  | offer patch => exact ⟨_, _, rfl⟩
  | work shared now mode deeds => exact ⟨_, _, rfl⟩
  | move move =>
    cases move with
    | action shared now name signals =>
      obtain ⟨kept, -⟩ | ⟨deeds, same, -⟩ := connection.action_works shared now name signals
      · exact ⟨_, _, kept⟩
      · exact ⟨_, _, same⟩
    | poll generation =>
      obtain ⟨-, ended⟩ | ⟨-, ⟨-, pending⟩ | ⟨patch, rest, -, taken⟩⟩ :=
        connection.poll_cases generation
      · exact ⟨_, _, congrArg Prod.fst ended⟩
      · exact ⟨_, _, congrArg Prod.fst pending⟩
      · exact ⟨_, _, congrArg Prod.fst taken⟩
    | pop => exact ⟨_, _, rfl⟩
    | drain => exact ⟨_, _, rfl⟩
    | refresh now => exact absurd rfl (refreshes now)
    | subscribe => exact absurd rfl opens
    | retire => exact absurd rfl shuts

-- Only opening a channel and shutting down bear on which channel is the newest.
theorem undergo_channel (connection : Connection) (passage : Passage)
    (others : passage ≠ .move .subscribe) (stays : passage ≠ .move .retire) :
    (connection.undergo passage).channel = connection.channel := by
  by_cases refreshes : ∃ now, passage = .move (.refresh now)
  · obtain ⟨now, rfl⟩ := refreshes
    rfl
  · obtain ⟨tab, queue, same⟩ :=
      connection.undergo_inside others stays (not_exists.mp refreshes)
    rw [same]

theorem undergo_isClosed (connection : Connection) (passage : Passage) :
    (connection.undergo passage).isClosed = true ↔
      connection.isClosed = true ∨ passage = .move .retire := by
  by_cases others : passage = .move .subscribe
  · subst others
    cases state : connection.channel with
    | closed => simp [undergo, Connection.move, subscribe_closed state]
    | opened generation =>
      simp [undergo, Connection.move, subscribe_opened state, isClosed_iff, state]
  · by_cases stays : passage = .move .retire
    · subst stays
      simp [undergo, Connection.move, retire, isClosed_iff]
    · simp [isClosed_iff, connection.undergo_channel passage others stays, stays]

theorem undergoAll_isClosed (connection : Connection) (passages : List Passage) :
    (connection.undergoAll passages).isClosed = true ↔
      connection.isClosed = true ∨ .move .retire ∈ passages := by
  induction passages generalizing connection with
  | nil => simp
  | cons passage rest ih =>
    rw [undergoAll_cons, ih, undergo_isClosed, List.mem_cons, or_assoc,
      eq_comm (a := passage)]

theorem retire_past (connection : Connection) (generation : Nat) :
    connection.retire.Past generation := by
  intro later opened
  simp [retire] at opened

theorem undergo_past {generation : Nat} {connection : Connection}
    (past : connection.Past generation) (passage : Passage) :
    (connection.undergo passage).Past generation := by
  by_cases others : passage = .move .subscribe
  · subst others
    cases state : connection.channel with
    | closed => simpa [undergo, Connection.move, subscribe_closed state] using past
    | opened current =>
      have before := past current state
      intro later opened
      simp only [undergo, Connection.move, subscribe_opened state, ChannelState.opened.injEq]
        at opened
      omega
  · by_cases stays : passage = .move .retire
    · subst stays
      exact connection.retire_past generation
    · intro later opened
      rw [connection.undergo_channel passage others stays] at opened
      exact past later opened

theorem undergoAll_past {generation : Nat} {connection : Connection}
    (past : connection.Past generation) (passages : List Passage) :
    (connection.undergoAll passages).Past generation := by
  induction passages generalizing connection with
  | nil => exact past
  | cons passage rest ih => exact ih (undergo_past past passage)

theorem undergoAll_channel (connection : Connection) (passages : List Passage)
    (others : .move .subscribe ∉ passages) (stays : .move .retire ∉ passages) :
    (connection.undergoAll passages).channel = connection.channel := by
  induction passages generalizing connection with
  | nil => rfl
  | cons passage rest ih =>
    rw [List.mem_cons, not_or] at others stays
    have kept := connection.undergo_channel passage (Ne.symm others.1) (Ne.symm stays.1)
    exact (ih (connection.undergo passage) others.2 stays.2).trans kept

/-- The newest channel is over as soon as another one is opened or the connection shut down. -/
theorem undergoAll_superseded {generation : Nat} {connection : Connection}
    (newest : connection.channel = .opened generation) {passages : List Passage}
    (superseded : .move .subscribe ∈ passages ∨ .move .retire ∈ passages) :
    (connection.undergoAll passages).Past generation := by
  induction passages generalizing connection with
  | nil => simp at superseded
  | cons passage rest ih =>
    rw [undergoAll_cons]
    by_cases others : passage = .move .subscribe
    · subst others
      refine undergoAll_past (fun later opened => ?_) rest
      simp only [undergo, Connection.move, subscribe_opened newest, ChannelState.opened.injEq]
        at opened
      omega
    · by_cases stays : passage = .move .retire
      · subst stays
        exact undergoAll_past (connection.retire_past generation) rest
      · refine ih ((connection.undergo_channel passage others stays).trans newest) ?_
        simpa [List.mem_cons, Ne.symm others, Ne.symm stays] using superseded

theorem poll_past {generation : Nat} {connection : Connection}
    (past : connection.Past generation) :
    connection.poll generation = (connection, .ended) := by
  obtain ⟨-, ended⟩ | ⟨newest, -⟩ := connection.poll_cases generation
  · exact ended
  · exact absurd (past generation newest) (Nat.lt_irrefl generation)

theorem poll_newest {generation : Nat} {connection : Connection}
    (newest : connection.channel = .opened generation) :
    connection.Finds False (connection.poll generation) := by
  refine ⟨nofun, fun _ => ⟨?_, ?_⟩⟩
  · simp [isClosed, newest]
  · obtain ⟨other, -⟩ | ⟨-, found⟩ := connection.poll_cases generation
    · exact absurd newest other
    · exact found

theorem polled_finds (connection : Connection) (passages : List Passage) :
    let reached := connection.subscribe.1.undergoAll passages
    reached.Finds
      (connection.isClosed = true ∨ .move .subscribe ∈ passages ∨ .move .retire ∈ passages)
      (reached.poll connection.subscribe.2) := by
  intro reached
  cases state : connection.channel with
  | closed =>
    have closed := connection.isClosed_iff.mpr state
    have still : reached.channel = .closed := by
      refine (isClosed_iff _).mp ((undergoAll_isClosed _ passages).mpr (.inl ?_))
      rw [subscribe_closed state]
      exact closed
    refine ⟨fun _ => poll_past fun later opened => ?_, fun going => absurd (.inl closed) going⟩
    rw [still] at opened
    nomatch opened
  | opened generation =>
    have unclosed : connection.isClosed = false := by simp [isClosed, state]
    have channel : connection.subscribe.1.channel = .opened connection.subscribe.2 := by
      rw [subscribe_opened state]
    constructor
    · rintro (closed | superseded)
      · rw [closed] at unclosed
        nomatch unclosed
      · exact poll_past (undergoAll_superseded channel superseded)
    · intro going
      rw [not_or, not_or] at going
      have kept := connection.subscribe.1.undergoAll_channel passages going.2.1 going.2.2
      exact (poll_newest (kept.trans channel)).newest not_false

end Connection

/-- After the step the connection at the place is closed. -/
def Scenario.Shuts (scenario : Scenario) (place : Nat) (now : Instant) (step : Step) : Prop :=
  ∃ later, (scenario.step now step).scenario.app.connections[place]? = some later ∧
    later.isClosed = true

section
variable {scenario : Scenario} {place : Nat} {connection : Connection}
  (here : scenario.app.connections[place]? = some connection)
include here

theorem Scenario.shuts_of_retired {now : Instant} {step : Step}
    (retired : .move .retire ∈ scenario.passages place [(now, step)]) :
    scenario.Shuts place now step :=
  ⟨_, reached_passages here [(now, step)],
    (connection.undergoAll_isClosed _).mpr (.inr retired)⟩

theorem Scenario.shuts_of_place {id : String} (placed : scenario.app.place? id = some place)
    (now : Instant) :
    scenario.Shuts place now (.close id) ∧
      (∀ session page, (scenario.app.connect now id session page).isSome = true →
        scenario.Shuts place now (.create id session page)) ∧
      ∀ instant ttl, expired instant connection.lastAccess ttl = true →
        scenario.Shuts place now (.sweep instant ttl) := by
  refine ⟨shuts_of_retired here ?_, fun session page made => shuts_of_retired here ?_,
    fun instant ttl old => shuts_of_retired here ?_⟩
  · simp [passages, along, changes, App.along, App.passages, placed]
  · simp [passages, along, changes, App.along, App.passages, placed, made]
  · have listed : (id, place) ∈
        (scenario.app.registered.filter fun _ other =>
          scenario.app.isExpired instant ttl other).entries := by
      rw [← KeyMap.get?_eq_some_iff, KeyMap.get?_filter]
      refine Option.filter_eq_some_iff.mpr ⟨placed, ?_⟩
      rw [App.isExpired, here]
      exact old
    simp only [passages, along, changes, App.along, App.passages, List.append_nil]
    exact List.mem_map.mpr
      ⟨(id, place), List.mem_filter.mpr ⟨listed, beq_self_eq_true place⟩, rfl⟩

end

/-- Whatever has passed over a connection since a channel was opened on it, a poll of the channel
takes the first patch that waits, unless the connection is closed or another channel was opened; then
it is over, and it takes nothing from then on. A closed connection stays closed. So it is in every
run of the application, which closes a connection by its id, when another one takes the id, and in a
sweep. -/
theorem newest_channel_only :
    (∀ (connection : Connection) (passages : List Passage),
      let reached := connection.subscribe.1.undergoAll passages
      reached.Finds
        (connection.isClosed = true ∨ .move .subscribe ∈ passages ∨ .move .retire ∈ passages)
        (reached.poll connection.subscribe.2)) ∧
    (∀ (connection : Connection) (passages : List Passage),
      (connection.undergoAll passages).isClosed = true ↔
        connection.isClosed = true ∨ .move .retire ∈ passages) ∧
    ∀ (scenario : Scenario) (place : Nat) (connection : Connection),
      scenario.app.connections[place]? = some connection →
      (∀ steps,
        let opened := scenario.app.subscribeAt place
        let later := ((scenario.withApp opened.1).reached steps).app
        let since := (scenario.withApp opened.1).passages place steps
        ∃ channel current polled,
          opened.2 = some channel ∧ later.connections[place]? = some current ∧
          later.poll channel = (later.setConnection place polled.1, polled.2) ∧
          current.Finds
            (connection.isClosed = true ∨ .move .subscribe ∈ since ∨ .move .retire ∈ since)
            polled) ∧
      ∀ (now : Instant) (id : String), scenario.app.place? id = some place →
        scenario.Shuts place now (.close id) ∧
        (∀ session page, (scenario.app.connect now id session page).isSome = true →
          scenario.Shuts place now (.create id session page)) ∧
        ∀ instant ttl, expired instant connection.lastAccess ttl = true →
          scenario.Shuts place now (.sweep instant ttl) := by
  refine ⟨Connection.polled_finds, Connection.undergoAll_isClosed, ?_⟩
  intro scenario place connection here
  refine ⟨fun steps => ?_, fun now id placed => Scenario.shuts_of_place here placed now⟩
  intro opened later since
  have begun : opened.1.connections[place]? = some connection.subscribe.1 := by
    rw [App.subscribeAt_eq_modify, App.modify_found here, if_pos rfl]
  have there : later.connections[place]? = some (connection.subscribe.1.undergoAll since) :=
    Scenario.reached_passages begun steps
  refine ⟨⟨place, connection.subscribe.2⟩, _, _, ?_, there, ?_, connection.polled_finds since⟩
  · simp [opened, App.subscribeAt, here]
  · simp [App.poll, there]

-- The second of two channels gets what the first was opened for.
def searchApp : App :=
  ⟨KeyMap.ofList [("/", searchPage)], Config.defaults, Shared.empty, [searchTab],
    KeyMap.ofList [("tab", 0)], ⟨1, 0⟩⟩

def reconnecting : List (Instant × Step) :=
  [(1, .runAction "tab" "suggest" KeyMap.empty), (3, .runAction "tab" "echo" KeyMap.empty),
    (5, .subscribe "tab")]

theorem newest_channel_only_reconnecting :
    (searchApp.connections[0]? = some searchTab ∧
      ((((Scenario.ofApp searchApp).withApp (searchApp.subscribeAt 0).1).reached reconnecting).app.poll
        ⟨0, 1⟩).2 = .ended) ∧
    searchApp.place? "tab" = some 0 ∧ (Scenario.ofApp searchApp).Shuts 0 7 (.close "tab") ∧
    (Scenario.ofApp searchApp).Shuts 0 7 (.create "tab" none searchPage) ∧
    (Scenario.ofApp searchApp).Shuts 0 7 (.sweep 7 5) := by
  have law := newest_channel_only.2.2 (Scenario.ofApp searchApp) 0 searchTab rfl
  obtain ⟨channel, current, polled, opened, -, found, finds⟩ := law.1 reconnecting
  obtain rfl : ⟨0, 1⟩ = channel := Option.some.inj opened
  have again : Passage.move .subscribe ∈
      ((Scenario.ofApp searchApp).withApp (searchApp.subscribeAt 0).1).passages 0 reconnecting :=
    List.mem_of_getElem? (i := 5) rfl
  obtain ⟨closed, replaced, swept⟩ := law.2 7 "tab" rfl
  refine ⟨⟨rfl, ?_⟩, rfl, closed, replaced none searchPage rfl, swept 7 5 rfl⟩
  exact (congrArg Prod.snd found).trans (congrArg Prod.snd (finds.ended (.inr (.inl again))))

end LiveTabs
