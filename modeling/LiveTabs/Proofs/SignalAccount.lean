import LiveTabs.Proofs.Connection
import LiveTabs.Proofs.Deeds
import LiveTabs.Proofs.KeyMap
/-!
What the server does to a tab's signals, kept as an account. The history of a connection lists the
values taken over from the client, the signals written by handlers, and the patches offered to the
queue and handed out from it. The queue itself goes through that history. Folding it gives what the
client can know once everything accepted has reached it, and which keys it was never told of.
-/
namespace LiveTabs

inductive Happening where
  | injected (taken : KeyMap Json)
  | wrote (key : String) (written : Json)
  | offered (patch : Patch) (accepted : Bool)
  | handedOut (patch : Patch)

namespace Outbox

/-- What is offered is pushed, and accepted or not as it says. What is handed out stood in front. -/
def Step (queue : Outbox) : Happening → Outbox → Prop
  | .offered patch accepted, next => queue.push patch = (next, accepted)
  | .handedOut patch, next => queue.pop = (next, some patch)
  | .injected _, next => next = queue
  | .wrote _ _, next => next = queue

/-- The queue goes through a history from its first entry to its last. -/
inductive Run : Outbox → List Happening → Outbox → Prop where
  | refl (queue : Outbox) : Run queue [] queue
  | next {queue after last : Outbox} {happening : Happening} {rest : List Happening}
    (step : queue.Step happening after) (later : Run after rest last) :
    Run queue (happening :: rest) last

theorem Run.append {queue middle last : Outbox} {first later : List Happening}
    (run : queue.Run first middle) (rest : middle.Run later last) :
    queue.Run (first ++ later) last := by
  induction run with
  | refl queue => exact rest
  | next step others ih => exact .next step (ih rest)

theorem Run.single {queue last : Outbox} {happening : Happening}
    (step : queue.Step happening last) : queue.Run [happening] last := .next step (.refl last)

/-- What is handed out one after the other is the front of the queue. -/
theorem handOut_run (rest : Outbox) (front : List Patch) :
    Run { rest with pending := front ++ rest.pending } (front.map .handedOut) rest := by
  induction front with
  | nil => exact .refl rest
  | cons patch others ih => exact .next rfl ih

end Outbox

namespace Scene

def offering (scene : Scene) (patch : Patch) : Happening :=
  .offered patch (scene.queue.push patch).2

def happenings (scene : Scene) : Deed → List Happening
  | .takeOver taken => [.injected taken]
  | .write _ _ _ => []
  | .signal key written => [.wrote key written]
  | .elements html => [scene.offering (.elements html)]
  | .script text => [scene.offering (.script text)]
  | .flush =>
    if scene.tab.changed.isEmpty then [] else [scene.offering (.signals scene.changedSignals)]
  | .refuse => []

/-- Handlers hand out nothing. -/
theorem happenings_stay (scene : Scene) (deed : Deed) (patch : Patch) :
    .handedOut patch ∉ scene.happenings deed := by
  cases deed with
  | flush =>
    unfold happenings
    split <;> simp [offering]
  | _ => simp [happenings, offering]

theorem along_stay (scene : Scene) (now : Instant) (deeds : List Deed) (patch : Patch) :
    .handedOut patch ∉ scene.along now happenings deeds := by
  induction deeds generalizing scene with
  | nil => exact List.not_mem_nil
  | cons deed rest ih =>
    rw [along, List.mem_append, not_or]
    exact ⟨scene.happenings_stay deed patch, ih (scene.carryOut now deed)⟩

end Scene

/-- What one connection goes through. Other connections work on the shared values in between, so
an action finds any shared values whatever. -/
inductive Move where
  | action (shared : Shared) (now : Instant) (name : String) (signals : KeyMap Json)
  | pop
  | drain
  | subscribe
  | poll (generation : Nat)
  | refresh (now : Instant)
  | retire

namespace Connection

def move (connection : Connection) : Move → Connection
  | .action shared now name signals => (connection.runAction shared now name signals).1
  | .pop => connection.pop.1
  | .drain => connection.drain.1
  | .subscribe => connection.subscribe.1
  | .poll generation => (connection.poll generation).1
  | .refresh now => connection.refresh now
  | .retire => connection.retire

def follow (connection : Connection) (moves : List Move) : Connection := moves.foldl move connection

/-- An unknown action takes over nothing and does nothing. -/
def actionHappenings (connection : Connection) (shared : Shared) (now : Instant) (name : String)
    (signals : KeyMap Json) : List Happening :=
  match connection.page.handler? name with
  | none => []
  | some handler =>
    (connection.scene shared .action).along now Scene.happenings
      (connection.actionDeeds shared now name signals handler)

/-- The patches that a move takes out of the queue and hands to whoever asked for them. -/
def taken (connection : Connection) : Move → List Patch
  | .pop => connection.pop.2.toList
  | .drain => connection.drain.2
  | .poll generation =>
    match (connection.poll generation).2 with
    | .item patch => [patch]
    | .pending => []
    | .ended => []
  | .action _ _ _ _ => []
  | .subscribe => []
  | .refresh _ => []
  | .retire => []

def happenings (connection : Connection) (move : Move) : List Happening :=
  match move with
  | .action shared now name signals => connection.actionHappenings shared now name signals
  | _ => (connection.taken move).map .handedOut

def history (connection : Connection) : List Move → List Happening
  | [] => []
  | move :: rest => connection.happenings move ++ (connection.move move).history rest

end Connection

/-! The queue goes through the history that is kept beside it. -/

namespace Scene

theorem enqueue_run (scene : Scene) (patch : Patch) :
    scene.queue.Run [scene.offering patch] (scene.enqueue patch).queue := .single rfl

theorem carryOut_run (scene : Scene) (now : Instant) (deed : Deed) :
    scene.queue.Run (scene.happenings deed) (scene.carryOut now deed).queue := by
  cases deed with
  | takeOver taken => exact .single rfl
  | write scope key written =>
    rw [carryOut, (scene.store_frame now scope key written).2.2]
    exact .refl scene.queue
  | signal key written => exact .single rfl
  | elements html => exact scene.enqueue_run (.elements html)
  | script text => exact scene.enqueue_run (.script text)
  | flush =>
    cases changed : scene.tab.changed.isEmpty with
    | true =>
      simp only [happenings, carryOut, offerChanged, changed, if_true]
      exact .refl scene.queue
    | false =>
      simp only [happenings, carryOut, offerChanged, changed, Bool.false_eq_true, if_false]
      exact scene.enqueue_run (.signals scene.changedSignals)
  | refuse =>
    rw [carryOut, (scene.refuseSession_frame now).2]
    exact .refl scene.queue

theorem carryOutAll_run (scene : Scene) (now : Instant) (deeds : List Deed) :
    scene.queue.Run (scene.along now happenings deeds) (scene.carryOutAll now deeds).queue := by
  induction deeds generalizing scene with
  | nil => exact .refl scene.queue
  | cons deed rest ih => exact (scene.carryOut_run now deed).append (ih (scene.carryOut now deed))

end Scene

namespace Connection

/-- What a move hands out stood at the front of the queue, and the rest stays in it. Only an action
puts anything in. -/
theorem taken_front (connection : Connection) (move : Move)
    (still : ∀ shared now name signals, move ≠ .action shared now name signals) :
    connection.queue = { (connection.move move).queue with
      pending := connection.taken move ++ (connection.move move).queue.pending } := by
  cases move with
  | action shared now name signals => exact absurd rfl (still shared now name signals)
  | pop =>
    rcases queued : connection.queue with ⟨limit, _ | ⟨patch, rest⟩⟩ <;>
      simp [Connection.move, taken, pop, Outbox.pop, queued]
  | drain => simp [Connection.move, taken, drain, Outbox.drain]
  | poll generation =>
    obtain ⟨-, ended⟩ | ⟨-, ⟨-, pending⟩ | ⟨patch, rest, waiting, popped⟩⟩ :=
      connection.poll_cases generation
    · simp [Connection.move, taken, ended]
    · simp [Connection.move, taken, pending]
    · simp [Connection.move, taken, popped, ← waiting]
  | subscribe => simp [Connection.move, taken, subscribe_queue]
  | refresh now => rfl
  | retire => rfl

theorem move_run (connection : Connection) (move : Move) :
    connection.queue.Run (connection.happenings move) (connection.move move).queue := by
  have handing := (connection.move move).queue.handOut_run (connection.taken move)
  have front := connection.taken_front move
  cases move with
  | action shared now name signals =>
    simp only [Connection.move, happenings, actionHappenings]
    cases known : connection.page.handler? name with
    | none =>
      rw [(runAction_unknown known shared now signals).1]
      exact .refl connection.queue
    | some handler =>
      rw [(runAction_deeds known shared now signals).1]
      exact (connection.scene shared .action).carryOutAll_run now
        (connection.actionDeeds shared now name signals handler)
  | _ =>
    rw [← front (by simp)] at handing
    exact handing

theorem follow_run (connection : Connection) (moves : List Move) :
    connection.queue.Run (connection.history moves) (connection.follow moves).queue := by
  induction moves generalizing connection with
  | nil => exact .refl connection.queue
  | cons move rest ih => exact (connection.move_run move).append (ih (connection.move move))

end Connection

/-- What the history says of the signals: their values, those that the client holds or was sent,
the keys that a full queue lost, and the keys that were written and not yet offered. -/
structure Account where
  signals : KeyMap Json
  held : KeyMap Json
  lost : KeySet
  unsent : KeySet

namespace Account

def opened (seeded : KeyMap Json) : Account := ⟨seeded, seeded, KeyMap.empty, KeyMap.empty⟩

def without (keys : KeySet) (values : KeyMap Json) : KeySet :=
  keys.filter fun key _ => !values.contains key

def together (keys : KeySet) (values : KeyMap Json) : KeySet :=
  keys.insertAll (values.map fun _ => ()).entries

def enter (account : Account) : Happening → Account
  | .injected taken =>
    { account with
      signals := account.signals.insertAll taken.entries
      held := account.held.insertAll taken.entries
      lost := without account.lost taken }
  | .wrote key written =>
    { account with
      signals := account.signals.insert key written
      unsent := account.unsent.insert key () }
  | .offered (.signals values) true =>
    { account with
      held := account.held.insertAll values.entries
      lost := without account.lost values
      unsent := KeyMap.empty }
  | .offered (.signals values) false =>
    { account with
      lost := together account.lost values
      unsent := KeyMap.empty }
  | .offered (.elements _) _ => account
  | .offered (.script _) _ => account
  | .handedOut _ => account

def afterAll (account : Account) (history : List Happening) : Account := history.foldl enter account

@[simp] theorem contains_without (keys : KeySet) (values : KeyMap Json) (key : String) :
    (without keys values).contains key = (keys.contains key && !values.contains key) := by
  simp [without]

@[simp] theorem contains_together (keys : KeySet) (values : KeyMap Json) (key : String) :
    (together keys values).contains key = (values.contains key || keys.contains key) := by
  simp [together, KeyMap.contains]

theorem afterAll_append (account : Account) (first later : List Happening) :
    account.afterAll (first ++ later) = (account.afterAll first).afterAll later := by
  simp [afterAll]

/-- The account agrees with the tab. Without the third part a flush would pass over a changed key
that has no value. -/
structure Balanced (account : Account) (tab : Tab) : Prop where
  signals : account.signals = tab.signals
  unsent : account.unsent = tab.changed
  stored : ∀ key, account.unsent.contains key = true → account.signals.contains key = true
  held : ∀ key, account.unsent.contains key = false → account.lost.contains key = false →
    account.held.get? key = account.signals.get? key

/-- An offered patch with signals has something to say, of exactly the keys written since the last
one, and says what their values are. -/
def Covers (account : Account) : Happening → Prop
  | .offered (.signals values) _ =>
    values.isEmpty = false ∧ ∀ key, values.contains key = account.unsent.contains key ∧
      (values.contains key = true → values.get? key = account.signals.get? key)
  | _ => True

def CoversAll (account : Account) : List Happening → Prop
  | [] => True
  | happening :: rest => account.Covers happening ∧ (account.enter happening).CoversAll rest

theorem coversAll_append (account : Account) (first later : List Happening)
    (covered : account.CoversAll first) (rest : (account.afterAll first).CoversAll later) :
    account.CoversAll (first ++ later) := by
  induction first generalizing account with
  | nil => exact rest
  | cons happening others ih => exact ⟨covered.1, ih (account.enter happening) covered.2 rest⟩

theorem covers_of_coversAll (account : Account) (before after : List Happening)
    (happening : Happening) (covered : account.CoversAll (before ++ happening :: after)) :
    (account.afterAll before).Covers happening := by
  induction before generalizing account with
  | nil => exact covered.1
  | cons first others ih => exact ih (account.enter first) covered.2

namespace Balanced
variable {account : Account} {tab : Tab}

theorem opened {V H : Type} (page : Catalog V H) :
    Balanced (opened (Tab.fresh page).signals) (Tab.fresh page) := by
  constructor <;> simp [Account.opened, Tab.fresh]

theorem congr {other : Tab} (balanced : Balanced account tab)
    (signals : other.signals = tab.signals) (changed : other.changed = tab.changed) :
    Balanced account other := by
  refine ⟨?_, ?_, balanced.stored, balanced.held⟩
  · rw [signals]
    exact balanced.signals
  · rw [changed]
    exact balanced.unsent

-- An injection over a changed key leaves it changed: what was written there is offered as the
-- client's own value.
theorem injected (balanced : Balanced account tab) (taken : KeyMap Json) :
    Balanced (account.enter (.injected taken))
      { tab with signals := tab.signals.insertAll taken.entries } := by
  refine ⟨?_, balanced.unsent, ?_, ?_⟩
  · exact congrArg (·.insertAll taken.entries) balanced.signals
  · intro key waits
    have stored := balanced.stored key waits
    simp [enter, stored]
  · intro key told kept
    simp only [enter, contains_without] at told kept ⊢
    rw [KeyMap.get?_insertAll_entries, KeyMap.get?_insertAll_entries]
    cases found : taken.get? key with
    | some value => rfl
    | none =>
      have absent : taken.contains key = false := (KeyMap.contains_eq_false_iff _ _).mpr found
      simp only [absent, Bool.not_false, Bool.and_true] at kept
      simpa using balanced.held key told kept

theorem wrote (balanced : Balanced account tab) (key : String) (written : Json) :
    Balanced (account.enter (.wrote key written))
      { tab with
        signals := tab.signals.insert key written
        changed := tab.changed.insert key () } := by
  refine ⟨?_, ?_, ?_, ?_⟩
  · exact congrArg (·.insert key written) balanced.signals
  · exact congrArg (·.insert key ()) balanced.unsent
  · intro other waits
    simp only [enter, KeyMap.contains_insert, Bool.or_eq_true, decide_eq_true_eq] at waits ⊢
    exact waits.imp id (balanced.stored other)
  · intro other told kept
    simp only [enter, KeyMap.contains_insert, Bool.or_eq_false_iff, decide_eq_false_iff_not]
      at told kept ⊢
    rw [KeyMap.get?_insert, if_neg told.1]
    exact balanced.held other told.2 kept

/-- The changed signals are those that the account has as unsent. -/
theorem changed_contains {scene : Scene} (balanced : Balanced account scene.tab) (key : String) :
    scene.changedSignals.contains key = account.unsent.contains key := by
  rw [Scene.changedSignals, KeyMap.contains_filter_key, ← balanced.signals, ← balanced.unsent]
  cases waits : account.unsent.contains key with
  | false => simp
  | true => simp [balanced.stored key waits]

theorem changed_get? {scene : Scene} (balanced : Balanced account scene.tab) (key : String)
    (listed : scene.changedSignals.contains key = true) :
    scene.changedSignals.get? key = account.signals.get? key := by
  have waits := balanced.changed_contains key
  rw [listed, balanced.unsent] at waits
  simp only [Scene.changedSignals, KeyMap.get?_filter, ← balanced.signals, ← waits]
  cases account.signals.get? key <;> rfl

theorem changed_covered {scene : Scene} (balanced : Balanced account scene.tab)
    (some : scene.tab.changed.isEmpty = false) (accepted : Bool) :
    account.Covers (.offered (.signals scene.changedSignals) accepted) := by
  refine ⟨?_, fun key => ⟨balanced.changed_contains key, balanced.changed_get? key⟩⟩
  obtain ⟨key, changed⟩ := (KeyMap.isEmpty_eq_false_iff _).mp some
  refine (KeyMap.isEmpty_eq_false_iff _).mpr ⟨key, ?_⟩
  rw [balanced.changed_contains, balanced.unsent]
  exact changed

theorem offered {scene : Scene} (balanced : Balanced account scene.tab) (accepted : Bool) :
    Balanced (account.enter (.offered (.signals scene.changedSignals) accepted))
      { scene.tab with changed := KeyMap.empty } := by
  cases accepted with
  | true =>
    refine ⟨balanced.signals, rfl, by simp [enter], ?_⟩
    intro key told kept
    simp only [enter, contains_without] at told kept ⊢
    rw [KeyMap.get?_insertAll_entries]
    cases listed : scene.changedSignals.contains key with
    | true =>
      obtain ⟨value, found⟩ := (KeyMap.contains_iff _ _).mp listed
      rw [← balanced.changed_get? key listed, found]
      rfl
    | false =>
      have absent := (KeyMap.contains_eq_false_iff _ _).mp listed
      rw [absent, Option.none_or]
      refine balanced.held key ?_ ?_
      · rw [← balanced.changed_contains, listed]
      · simpa [listed] using kept
  | false =>
    refine ⟨balanced.signals, rfl, by simp [enter], ?_⟩
    intro key told kept
    simp only [enter, contains_together, Bool.or_eq_false_iff] at told kept ⊢
    exact balanced.held key (by rw [← balanced.changed_contains, kept.1]) kept.2

end Balanced

/-- One deed keeps the account balanced. -/
theorem deed_balanced {account : Account} {scene : Scene} (balanced : Balanced account scene.tab)
    (now : Instant) (deed : Deed) :
    Balanced (account.afterAll (scene.happenings deed)) (scene.carryOut now deed).tab ∧
      account.CoversAll (scene.happenings deed) := by
  cases deed with
  | takeOver taken => exact ⟨balanced.injected taken, trivial, trivial⟩
  | write scope key written =>
    obtain ⟨signals, changed, _⟩ := scene.store_frame now scope key written
    exact ⟨balanced.congr signals changed, trivial⟩
  | signal key written => exact ⟨balanced.wrote key written, trivial, trivial⟩
  | elements html => exact ⟨balanced, trivial, trivial⟩
  | script text => exact ⟨balanced, trivial, trivial⟩
  | flush =>
    cases changed : scene.tab.changed.isEmpty with
    | true => simpa [Scene.happenings, Scene.carryOut, Scene.offerChanged, changed, afterAll,
        CoversAll] using balanced
    | false =>
      simp only [Scene.happenings, Scene.carryOut, Scene.offerChanged, changed,
        Bool.false_eq_true, if_false]
      exact ⟨balanced.offered _, balanced.changed_covered changed _, trivial⟩
  | refuse =>
    rw [Scene.carryOut, (scene.refuseSession_frame now).1]
    exact ⟨balanced, trivial⟩

theorem deeds_balanced {account : Account} {scene : Scene} (balanced : Balanced account scene.tab)
    (now : Instant) (deeds : List Deed) :
    Balanced (account.afterAll (scene.along now Scene.happenings deeds))
        (scene.carryOutAll now deeds).tab ∧
      account.CoversAll (scene.along now Scene.happenings deeds) := by
  induction deeds generalizing account scene with
  | nil => exact ⟨balanced, trivial⟩
  | cons deed rest ih =>
    obtain ⟨kept, covered⟩ := deed_balanced balanced now deed
    obtain ⟨later, others⟩ := ih kept
    rw [Scene.along, afterAll_append]
    exact ⟨later, coversAll_append _ _ _ covered others⟩

/-- What is handed out is in the account already. -/
theorem handedOut_silent (account : Account) (patches : List Patch) :
    account.afterAll (patches.map .handedOut) = account ∧
      account.CoversAll (patches.map .handedOut) := by
  induction patches with
  | nil => exact ⟨rfl, trivial⟩
  | cons patch rest ih => exact ⟨ih.1, trivial, ih.2⟩

theorem move_balanced {account : Account} {connection : Connection}
    (balanced : Balanced account connection.tab) (move : Move) :
    Balanced (account.afterAll (connection.happenings move)) (connection.move move).tab ∧
      account.CoversAll (connection.happenings move) := by
  have silent := account.handedOut_silent (connection.taken move)
  cases move with
  | action shared now name signals =>
    simp only [Connection.move, Connection.happenings, Connection.actionHappenings]
    cases known : connection.page.handler? name with
    | none =>
      rw [(Connection.runAction_unknown known shared now signals).1]
      exact ⟨balanced, trivial⟩
    | some handler =>
      rw [(Connection.runAction_deeds known shared now signals).1]
      have idle : Balanced account (connection.scene shared .action).tab := balanced.congr rfl rfl
      obtain ⟨kept, covered⟩ := deeds_balanced idle now
        (connection.actionDeeds shared now name signals handler)
      exact ⟨kept.congr rfl rfl, covered⟩
  | pop | drain | refresh now | retire =>
    simp only [Connection.happenings, silent.1]
    exact ⟨balanced, silent.2⟩
  | subscribe =>
    simp only [Connection.happenings, silent.1, Connection.move, Connection.subscribe_tab]
    exact ⟨balanced, silent.2⟩
  | poll generation =>
    simp only [Connection.happenings, silent.1, Connection.move, Connection.poll_tab]
    exact ⟨balanced, silent.2⟩

theorem moves_balanced {account : Account} {connection : Connection}
    (balanced : Balanced account connection.tab) (moves : List Move) :
    Balanced (account.afterAll (connection.history moves)) (connection.follow moves).tab ∧
      account.CoversAll (connection.history moves) := by
  induction moves generalizing account connection with
  | nil => exact ⟨balanced, trivial⟩
  | cons move rest ih =>
    obtain ⟨kept, covered⟩ := move_balanced balanced move
    obtain ⟨later, others⟩ := ih kept
    rw [Connection.history, afterAll_append]
    exact ⟨later, coversAll_append _ _ _ covered others⟩

end Account

/-- Nothing that happens to a signal is lost from the account. The tab's queue goes through the
history: what counts as accepted there was pushed, and what counts as refused found it full. Outside
the keys that wait for a flush and those that a full queue lost, what the client was sent or sent
itself is what the server holds. And each patch with signals carries the keys written since the one
before, all of them and no others, at the values they have by then. -/
theorem signals_accounted_for (now : Instant) (id : String) (session : Option String) (page : Page)
    (capacity : Nat) (connection : Connection) (moves : List Move)
    (opened : Connection.fresh? now id session page capacity = some connection) :
    let seeded := Account.opened (Tab.fresh page.toCatalog).signals
    let reached := (connection.follow moves).tab
    let account := seeded.afterAll (connection.history moves)
    connection.queue.Run (connection.history moves) (connection.follow moves).queue ∧
    (account.signals = reached.signals ∧ account.unsent = reached.changed ∧
      ∀ key, reached.changed.contains key = false → account.lost.contains key = false →
        account.held.get? key = reached.signals.get? key) ∧
    ∀ before values accepted after,
      connection.history moves = before ++ .offered (.signals values) accepted :: after →
      values.isEmpty = false ∧ ∀ key,
        values.contains key = (seeded.afterAll before).unsent.contains key ∧
          (values.contains key = true →
            values.get? key = (seeded.afterAll before).signals.get? key) := by
  intro seeded reached account
  have fresh : Account.Balanced seeded connection.tab := by
    rw [(Connection.fresh?_starts opened).1]
    exact Account.Balanced.opened page.toCatalog
  obtain ⟨balanced, covered⟩ := Account.moves_balanced fresh moves
  refine ⟨connection.follow_run moves, ?_, ?_⟩
  · refine ⟨balanced.signals, balanced.unsent, fun key told kept => ?_⟩
    rw [← balanced.signals]
    exact balanced.held key (by rw [balanced.unsent]; exact told) kept
  · intro before values accepted after split
    rw [split] at covered
    exact Account.covers_of_coversAll seeded before after _ covered

-- A suggestion is written by a handler that then panics; only the next action flushes it.
def searchPage : Page := .of {
  id := "search"
  route := some "/"
  view := []
  states := []
  signals := [⟨"query", .str "", none⟩]
  actions := KeyMap.ofList [
    ("suggest", [.setSignal (some ⟨.string, "query", ""⟩) (.literal (.str "lean")), .panic]),
    ("echo", [.syncSignals])]
  owners := KeyMap.empty
  components := [] }

def searchTab : Connection :=
  ⟨"tab", none, searchPage, Tab.fresh searchPage.toCatalog, ⟨1, []⟩, 0, .opened 0⟩

def suggestThenEcho : List Move :=
  [.action Shared.empty 1 "suggest" KeyMap.empty, .action Shared.empty 2 "echo" KeyMap.empty]

theorem signals_accounted_for_after_panic :
    Connection.fresh? 0 "tab" none searchPage 1 = some searchTab ∧
      searchTab.queue.Run (searchTab.history suggestThenEcho)
        (searchTab.follow suggestThenEcho).queue ∧
      ((Account.opened (Tab.fresh searchPage.toCatalog).signals).afterAll
          (searchTab.history suggestThenEcho)).held.get? "query" =
        (searchTab.follow suggestThenEcho).tab.signals.get? "query" := by
  obtain ⟨run, balanced, -⟩ :=
    signals_accounted_for 0 "tab" none searchPage 1 searchTab suggestThenEcho rfl
  exact ⟨rfl, run, balanced.2.2 "query" (by decide) (by decide)⟩

example : (searchTab.follow suggestThenEcho).queue.pending =
    [.signals (KeyMap.ofList [("query", .str "lean")])] := rfl

end LiveTabs
