import LiveTabs.Proofs.SignalAccount
/-!
One tab and its client, each at work on its own copy of the signals. The client takes over every
patch that reaches it, in order, and sends what it edited with its next action; the server takes
that over and does not tell it back. At rest the two copies agree, but for the signals where a
value from the client crossed another one on its way.
-/
namespace LiveTabs

structure Asked where
  action : String
  signals : KeyMap Json

structure Exchange where
  connection : Connection
  client : KeyMap Json
  edited : KeySet
  asked : List Asked

/-- Any request that is on its way may be served next, by a server that finds any shared values. -/
inductive Turn where
  | edit (key : String) (value : Json)
  | ask (action : String)
  | serve (position : Nat) (shared : Shared) (now : Instant)
  | deliver

def Patch.takenBy (client : KeyMap Json) : Patch → KeyMap Json
  | .signals values => client.insertAll values.entries
  | .elements _ => client
  | .script _ => client

/-- The client's copy once it has everything in the queue. -/
def Outbox.prospect (queue : Outbox) (client : KeyMap Json) : KeyMap Json :=
  queue.pending.foldl Patch.takenBy client

namespace Outbox

theorem prospect_push (queue : Outbox) (patch : Patch) (client : KeyMap Json) :
    (queue.push patch).1.prospect client =
      if (queue.push patch).2 then Patch.takenBy (queue.prospect client) patch
      else queue.prospect client := by
  cases full : queue.isFull <;> simp [push, full, prospect]

-- What the client shows of one signal comes from nothing but that signal.
theorem prospect_get?_congr (queue : Outbox) (client other : KeyMap Json) (key : String)
    (same : client.get? key = other.get? key) :
    (queue.prospect client).get? key = (queue.prospect other).get? key := by
  unfold prospect
  induction queue.pending generalizing client other with
  | nil => exact same
  | cons patch rest ih =>
    apply ih
    cases patch with
    | elements html => exact same
    | script text => exact same
    | signals values =>
      simp only [Patch.takenBy, KeyMap.get?_insertAll_entries]
      rw [same]

theorem prospect_pop (queue : Outbox) (client : KeyMap Json) :
    queue.pop.1.prospect (queue.pop.2.elim client (Patch.takenBy client)) =
      queue.prospect client := by
  cases waiting : queue.pending <;> simp [pop, prospect, waiting]

end Outbox

-- What the client is about to show, and the signals whose last value came from it and is overtaken
-- by another one. A patch that the queue accepts puts its signals right.
structure Watch where
  prospect : KeyMap Json
  overtaken : String → Prop

namespace Watch

def see (watch : Watch) : Happening → Watch
  | .injected taken =>
    { watch with
      overtaken := fun key =>
        if taken.contains key then watch.prospect.get? key ≠ taken.get? key
        else watch.overtaken key }
  | .offered (.signals values) true =>
    { prospect := watch.prospect.insertAll values.entries
      overtaken := fun key => values.contains key = false ∧ watch.overtaken key }
  | .offered _ _ => watch
  | .wrote _ _ => watch
  | .handedOut _ => watch

def seeAll (watch : Watch) (history : List Happening) : Watch := history.foldl see watch

-- The client is about to show what the account has it hold, unless it is overtaken.
def Settled (watch : Watch) (account : Account) (key : String) : Prop :=
  watch.prospect.get? key = account.held.get? key ↔ ¬ watch.overtaken key

variable {watch : Watch} {account : Account} {key : String}

theorem Settled.congr {other : Watch} (settled : watch.Settled account key)
    (shown : other.prospect.get? key = watch.prospect.get? key)
    (overtaken : other.overtaken key = watch.overtaken key) : other.Settled account key := by
  unfold Settled
  rw [shown, overtaken]
  exact settled

-- A value taken over settles its signal, whatever came before.
theorem injected_settled {taken : KeyMap Json} (carried : taken.contains key = true) :
    (watch.see (.injected taken)).Settled (account.enter (.injected taken)) key := by
  obtain ⟨value, given⟩ := (KeyMap.contains_iff _ _).mp carried
  simp [Settled, see, Account.enter, carried, given]

theorem see_settled {happening : Happening} (settled : watch.Settled account key)
    (heard : ∀ values, happening ≠ .offered (.signals values) false) :
    (watch.see happening).Settled (account.enter happening) key := by
  cases happening with
  | wrote other written => exact settled
  | handedOut patch => exact settled
  | injected taken =>
    cases carried : taken.contains key with
    | true => exact injected_settled carried
    | false =>
      have absent := (KeyMap.contains_eq_false_iff _ _).mp carried
      simpa [Settled, see, Account.enter, carried, absent] using settled
  | offered patch accepted =>
    cases patch with
    | elements html => exact settled
    | script text => exact settled
    | signals values =>
      cases accepted with
      | false => exact absurd rfl (heard values)
      | true =>
        cases carried : values.get? key with
        | some value =>
          have listed := (KeyMap.contains_iff _ _).mpr ⟨value, carried⟩
          simp [Settled, see, Account.enter, carried, listed]
        | none =>
          have absent := (KeyMap.contains_eq_false_iff _ _).mpr carried
          simpa [Settled, see, Account.enter, carried, absent] using settled

theorem seeAll_settled {history : List Happening} (settled : watch.Settled account key)
    (heard : ∀ values, Happening.offered (.signals values) false ∉ history) :
    (watch.seeAll history).Settled (account.afterAll history) key := by
  induction history generalizing watch account with
  | nil => exact settled
  | cons happening rest ih =>
    have first : (watch.see happening).Settled (account.enter happening) key := by
      refine see_settled settled fun values same => heard values ?_
      rw [← same]
      exact List.mem_cons_self
    exact ih first fun values member => heard values (List.mem_cons_of_mem _ member)

theorem seeAll_append (watch : Watch) (first later : List Happening) :
    watch.seeAll (first ++ later) = (watch.seeAll first).seeAll later := by
  simp [seeAll]

/-! What the client is about to show follows the queue as long as nothing is handed out. -/

theorem step_prospect {queue next : Outbox} {client : KeyMap Json} {happening : Happening}
    (same : watch.prospect = queue.prospect client) (step : queue.Step happening next)
    (stays : ∀ patch, happening ≠ .handedOut patch) :
    (watch.see happening).prospect = next.prospect client := by
  cases happening with
  | injected taken =>
    obtain rfl := step
    exact same
  | wrote key written =>
    obtain rfl := step
    exact same
  | handedOut patch => exact absurd rfl (stays patch)
  | offered patch accepted =>
    have pushed := queue.prospect_push patch client
    rw [step, ← same] at pushed
    rw [pushed]
    cases patch with
    | elements html => simp [see, Patch.takenBy]
    | script text => simp [see, Patch.takenBy]
    | signals values => cases accepted <;> simp [see, Patch.takenBy]

theorem run_prospect (watch : Watch) {queue last : Outbox} {client : KeyMap Json}
    {history : List Happening} (same : watch.prospect = queue.prospect client)
    (run : queue.Run history last) (stays : ∀ patch, .handedOut patch ∉ history) :
    (watch.seeAll history).prospect = last.prospect client := by
  induction run generalizing watch with
  | refl queue => exact same
  | @next queue after last happening rest step later ih =>
    have first := step_prospect same step fun patch hands =>
      stays patch (hands ▸ List.mem_cons_self)
    exact ih _ first fun patch member => stays patch (List.mem_cons_of_mem _ member)

end Watch

namespace Exchange

def opened (connection : Connection) : Exchange :=
  ⟨connection, connection.tab.signals, KeyMap.empty, []⟩

-- A client edits the signals of its page and asks for the actions of its page, no others.
def turn (exchange : Exchange) : Turn → Exchange
  | .edit key value =>
    if exchange.connection.page.knowsSignal key then
      { exchange with
        client := exchange.client.insert key value
        edited := exchange.edited.insert key () }
    else exchange
  | .ask action =>
    if exchange.connection.page.knowsAction action then
      { exchange with
        edited := KeyMap.empty
        asked := exchange.asked ++
          [⟨action, exchange.client.filter fun key _ => exchange.edited.contains key⟩] }
    else exchange
  | .serve position shared now =>
    match exchange.asked[position]? with
    | none => exchange
    | some request =>
      { exchange with
        connection :=
          (exchange.connection.runAction shared now request.action request.signals).1
        asked := exchange.asked.eraseIdx position }
  | .deliver =>
    { exchange with
      connection := exchange.connection.pop.1
      client := exchange.connection.pop.2.elim exchange.client (Patch.takenBy exchange.client) }

def happenings (exchange : Exchange) : Turn → List Happening
  | .serve position shared now =>
    match exchange.asked[position]? with
    | none => []
    | some request =>
      exchange.connection.actionHappenings shared now request.action request.signals
  | .edit _ _ => []
  | .ask _ => []
  | .deliver => []

def follow (exchange : Exchange) (turns : List Turn) : Exchange := turns.foldl turn exchange

def history (exchange : Exchange) : List Turn → List Happening
  | [] => []
  | next :: rest => exchange.happenings next ++ (exchange.turn next).history rest

def prospect (exchange : Exchange) : KeyMap Json :=
  exchange.connection.queue.prospect exchange.client

def overtakenBy (exchange : Exchange) (overtaken : String → Prop) (next : Turn) : String → Prop :=
  (Watch.seeAll ⟨exchange.prospect, overtaken⟩ (exchange.happenings next)).overtaken

/-- The signals whose last value came from the client and was overtaken, after all turns. -/
def overtakenAfter (exchange : Exchange) (overtaken : String → Prop) :
    List Turn → String → Prop
  | [] => overtaken
  | next :: rest =>
    (exchange.turn next).overtakenAfter (exchange.overtakenBy overtaken next) rest

/-- Nothing is on its way, nothing edited waits to be sent and nothing written to be flushed. -/
structure Quiescent (exchange : Exchange) : Prop where
  asked : exchange.asked = []
  queue : exchange.connection.queue.pending = []
  edited : exchange.edited.isEmpty = true
  changed : exchange.connection.tab.changed.isEmpty = true

-- `account` is what the history so far says of the signals, and `overtaken` the overtaken ones.
-- Of a signal that the client still edits or asks about nothing is said until it is taken over.
structure Tracked (exchange : Exchange) (account : Account) (overtaken : String → Prop) :
    Prop where
  balanced : account.Balanced exchange.connection.tab
  kept : ∀ key, account.lost.contains key = false
  edits : ∀ key, exchange.edited.contains key = true →
    exchange.client.contains key = true ∧ exchange.connection.page.knowsSignal key = true
  asks : ∀ request ∈ exchange.asked,
    exchange.connection.page.knowsAction request.action = true ∧
      ∀ key, request.signals.contains key = true →
        exchange.connection.page.knowsSignal key = true
  settled : ∀ key, exchange.edited.contains key = false →
    (∀ request ∈ exchange.asked, request.signals.contains key = false) →
    Watch.Settled ⟨exchange.prospect, overtaken⟩ account key

end Exchange

theorem Account.lost_afterAll (account : Account) (history : List Happening)
    (kept : ∀ key, account.lost.contains key = false)
    (heard : ∀ values, Happening.offered (.signals values) false ∉ history) :
    ∀ key, (account.afterAll history).lost.contains key = false := by
  induction history generalizing account with
  | nil => exact kept
  | cons happening rest ih =>
    apply ih
    · intro key
      cases happening with
      | injected taken => simp [enter, kept key]
      | wrote other written => exact kept key
      | handedOut patch => exact kept key
      | offered patch accepted =>
        cases patch with
        | elements html => exact kept key
        | script text => exact kept key
        | signals values =>
          cases accepted with
          | true => simp [enter, kept key]
          | false => exact absurd List.mem_cons_self (heard values)
    · exact fun values member => heard values (List.mem_cons_of_mem _ member)

theorem Patch.contains_takenBy (client : KeyMap Json) (patch : Patch) (key : String)
    (held : client.contains key = true) : (Patch.takenBy client patch).contains key = true := by
  cases patch with
  | elements html => exact held
  | script text => exact held
  | signals values => simp [Patch.takenBy, held]

theorem Connection.runAction_page (connection : Connection) (shared : Shared) (now : Instant)
    (action : String) (signals : KeyMap Json) :
    (connection.runAction shared now action signals).1.page = connection.page := by
  cases known : connection.page.handler? action with
  | none => rw [(runAction_unknown known shared now signals).1]
  | some handler =>
    rw [(runAction_deeds known shared now signals).1]
    rfl

namespace Exchange.Tracked
variable {exchange : Exchange} {account : Account} {overtaken : String → Prop}

theorem edit (tracked : exchange.Tracked account overtaken) (key : String) (value : Json) :
    (exchange.turn (.edit key value)).Tracked account overtaken := by
  cases declared : exchange.connection.page.knowsSignal key with
  | false => simpa [turn, declared] using tracked
  | true =>
    simp only [turn, declared, if_true]
    refine ⟨tracked.balanced, tracked.kept, ?_, tracked.asks, ?_⟩
    · intro other edited
      by_cases same : other = key
      · subst same
        exact ⟨by simp, declared⟩
      · simp only [KeyMap.contains_insert, same, decide_false, Bool.false_or] at edited ⊢
        exact tracked.edits other edited
    · intro other unedited unasked
      simp only [KeyMap.contains_insert, Bool.or_eq_false_iff, decide_eq_false_iff_not]
        at unedited
      have untouched : (exchange.client.insert key value).get? other =
          exchange.client.get? other := by rw [KeyMap.get?_insert, if_neg unedited.1]
      refine (tracked.settled other unedited.2 unasked).congr ?_ rfl
      exact Outbox.prospect_get?_congr _ _ _ _ untouched

theorem ask (tracked : exchange.Tracked account overtaken) (action : String) :
    (exchange.turn (.ask action)).Tracked account overtaken := by
  cases known : exchange.connection.page.knowsAction action with
  | false => simpa [turn, known] using tracked
  | true =>
    simp only [turn, known, if_true]
    refine ⟨tracked.balanced, tracked.kept, by simp, ?_, ?_⟩
    · intro request sent
      rcases List.mem_append.mp sent with before | added
      · exact tracked.asks request before
      · rw [List.mem_singleton.mp added]
        refine ⟨known, fun key carried => ?_⟩
        rw [KeyMap.contains_filter_key, Bool.and_eq_true] at carried
        exact (tracked.edits key carried.2).2
    · intro key _ unasked
      refine tracked.settled key ?_ fun request sent =>
        unasked request (List.mem_append_left _ sent)
      -- Everything edited is in the request just sent.
      have unsent := unasked _ (List.mem_append_right _ (List.mem_singleton.mpr rfl))
      rw [KeyMap.contains_filter_key] at unsent
      cases edited : exchange.edited.contains key with
      | false => rfl
      | true =>
        have held := (tracked.edits key edited).1
        rw [edited, held] at unsent
        exact unsent

theorem deliver (tracked : exchange.Tracked account overtaken) :
    (exchange.turn .deliver).Tracked account overtaken := by
  refine ⟨tracked.balanced, tracked.kept, ?_, tracked.asks, ?_⟩
  · intro key edited
    obtain ⟨held, declared⟩ := tracked.edits key edited
    refine ⟨?_, declared⟩
    simp only [turn]
    cases exchange.connection.pop.2 with
    | none => exact held
    | some patch => exact Patch.contains_takenBy exchange.client patch key held
  · intro key unedited unasked
    have same := exchange.connection.queue.prospect_pop exchange.client
    rw [prospect, turn, Connection.pop, same]
    exact tracked.settled key unedited unasked

-- A signal in the request that is served is settled by it; any other one was settled before.
theorem served_settled (tracked : exchange.Tracked account overtaken) {request : Asked}
    {position : Nat} (found : exchange.asked[position]? = some request) {key : String}
    (unedited : exchange.edited.contains key = false)
    (unasked : ∀ other ∈ exchange.asked.eraseIdx position, other.signals.contains key = false) :
    let injected := Happening.injected
      (request.signals.filter fun key _ => exchange.connection.page.knowsSignal key)
    (Watch.see ⟨exchange.prospect, overtaken⟩ injected).Settled (account.enter injected) key := by
  intro injected
  have sent := tracked.asks request (List.mem_of_getElem? found)
  cases carried : request.signals.contains key with
  | true =>
    apply Watch.injected_settled
    rw [KeyMap.contains_filter_key, carried, sent.2 key carried]
    rfl
  | false =>
    refine Watch.see_settled (tracked.settled key unedited fun other asked => ?_) (by simp [injected])
    obtain ⟨place, there⟩ := List.mem_iff_getElem?.mp asked
    by_cases same : place = position
    · rw [same, found] at there
      rw [← Option.some.inj there]
      exact carried
    · exact unasked other (List.mem_eraseIdx_iff_getElem?.mpr ⟨place, same, there⟩)

theorem serve (tracked : exchange.Tracked account overtaken) (position : Nat) (shared : Shared)
    (now : Instant)
    (heard : ∀ values, Happening.offered (.signals values) false ∉
      exchange.happenings (.serve position shared now)) :
    (exchange.turn (.serve position shared now)).Tracked
      (account.afterAll (exchange.happenings (.serve position shared now)))
      (exchange.overtakenBy overtaken (.serve position shared now)) := by
  cases found : exchange.asked[position]? with
  | none =>
    simpa [turn, happenings, overtakenBy, found, Account.afterAll, Watch.seeAll] using tracked
  | some request =>
    have sent := tracked.asks request (List.mem_of_getElem? found)
    obtain ⟨handler, known⟩ : ∃ handler,
        exchange.connection.page.handler? request.action = some handler :=
      (KeyMap.contains_iff _ _).mp sent.1
    have page := exchange.connection.runAction_page shared now request.action request.signals
    simp only [happenings, found] at heard
    simp only [turn, happenings, overtakenBy, found]
    refine ⟨?_, ?_, ?_, ?_, ?_⟩
    · exact (Account.move_balanced tracked.balanced
        (.action shared now request.action request.signals)).1
    · exact Account.lost_afterAll account _ tracked.kept heard
    · rw [page]
      exact tracked.edits
    · rw [page]
      exact fun other asked => tracked.asks other (List.mem_of_mem_eraseIdx asked)
    · intro key unedited unasked
      have first := tracked.served_settled found unedited unasked
      have begun : exchange.prospect =
          (exchange.connection.scene shared .action).queue.prospect exchange.client := rfl
      have reached := Watch.run_prospect ⟨exchange.prospect, overtaken⟩ begun
        (Scene.carryOutAll_run _ now
          (exchange.connection.actionDeeds shared now request.action request.signals handler))
        (Scene.along_stay _ now _)
      rw [Connection.actionHappenings, known] at heard ⊢
      have settled := Watch.seeAll_settled first
        fun values member => heard values (List.mem_cons_of_mem _ member)
      refine Watch.Settled.congr settled ?_ rfl
      rw [prospect, (Connection.runAction_deeds known shared now request.signals).1]
      exact congrArg (KeyMap.get? · key) reached.symm

theorem opened {connection : Connection} (account : Account)
    (balanced : account.Balanced connection.tab) (kept : account.lost = KeyMap.empty)
    (held : account.held = connection.tab.signals) (empty : connection.queue.pending = []) :
    (Exchange.opened connection).Tracked account fun _ => False := by
  refine ⟨balanced, by simp [kept], by simp [Exchange.opened], by simp [Exchange.opened], ?_⟩
  intro key _ _
  simp [Watch.Settled, Exchange.opened, prospect, Outbox.prospect, empty, held]

/-- Every turn keeps client and account alike where nothing is under way or overtaken. -/
theorem turned (tracked : exchange.Tracked account overtaken) (next : Turn)
    (heard : ∀ values, Happening.offered (.signals values) false ∉ exchange.happenings next) :
    (exchange.turn next).Tracked (account.afterAll (exchange.happenings next))
      (exchange.overtakenBy overtaken next) := by
  cases next with
  | edit key value => exact tracked.edit key value
  | ask action => exact tracked.ask action
  | serve position shared now => exact tracked.serve position shared now heard
  | deliver => exact tracked.deliver

theorem followed (tracked : exchange.Tracked account overtaken) (turns : List Turn)
    (heard : ∀ values, Happening.offered (.signals values) false ∉ exchange.history turns) :
    (exchange.follow turns).Tracked (account.afterAll (exchange.history turns))
      (exchange.overtakenAfter overtaken turns) := by
  induction turns generalizing exchange account overtaken with
  | nil => exact tracked
  | cons next rest ih =>
    have first := tracked.turned next
      fun values member => heard values (List.mem_append_left _ member)
    rw [history, Account.afterAll_append]
    exact ih first fun values member => heard values (List.mem_append_right _ member)

/-- At rest everything has reached both sides. -/
theorem settled_at_rest (tracked : exchange.Tracked account overtaken) (quiet : exchange.Quiescent)
    (key : String) :
    exchange.client.get? key = exchange.connection.tab.signals.get? key ↔ ¬ overtaken key := by
  have unedited := (KeyMap.isEmpty_iff _).mp quiet.edited key
  have unasked : ∀ request ∈ exchange.asked, request.signals.contains key = false := by
    simp [quiet.asked]
  have flushed := (KeyMap.isEmpty_iff _).mp quiet.changed key
  have held := tracked.balanced.held key (by rw [tracked.balanced.unsent]; exact flushed)
    (tracked.kept key)
  have shown : exchange.prospect = exchange.client := by
    rw [prospect, Outbox.prospect, quiet.queue, List.foldl_nil]
  have settled := tracked.settled key unedited unasked
  rw [Watch.Settled, shown, held, tracked.balanced.signals] at settled
  exact settled

end Exchange.Tracked

/-- Client and server agree at rest on exactly the signals that were not overtaken. -/
theorem signals_agree_iff (now : Instant) (id : String) (session : Option String) (page : Page)
    (capacity : Nat) (connection : Connection) (turns : List Turn)
    (fresh : Connection.fresh? now id session page capacity = some connection)
    (heard : ∀ values,
      Happening.offered (.signals values) false ∉ (Exchange.opened connection).history turns)
    (quiet : ((Exchange.opened connection).follow turns).Quiescent) (key : String) :
    let reached := (Exchange.opened connection).follow turns
    reached.client.get? key = reached.connection.tab.signals.get? key ↔
      ¬ (Exchange.opened connection).overtakenAfter (fun _ => False) turns key := by
  intro reached
  obtain ⟨tab, empty⟩ := Connection.fresh?_starts fresh
  have balanced : (Account.opened connection.tab.signals).Balanced connection.tab := by
    rw [tab]
    exact Account.Balanced.opened page.toCatalog
  have tracked := Exchange.Tracked.opened _ balanced rfl rfl empty
  exact (tracked.followed turns heard).settled_at_rest quiet key

def byTheServer (action : String) : List Turn := [.ask action, .serve 0 Shared.empty 1]

-- The server's suggestion is still queued when the client's own query arrives.
def crossing : List Turn :=
  byTheServer "suggest" ++ byTheServer "echo" ++ [.edit "query" (.str "coq")] ++
    byTheServer "echo" ++ [.deliver]

theorem crossing_heard (patch : Patch) :
    Happening.offered patch false ∉ (Exchange.opened searchTab).history crossing := by
  intro missed
  have listed : (Exchange.opened searchTab).history crossing =
      [.injected KeyMap.empty, .wrote "query" (.str "lean"), .injected KeyMap.empty,
        .offered (.signals (KeyMap.ofList [("query", .str "lean")])) true,
        .injected (KeyMap.ofList [("query", .str "coq")])] := rfl
  rw [listed] at missed
  simp at missed

theorem signals_agree_iff_crossing :
    ((Exchange.opened searchTab).follow crossing).client.get? "query" =
        ((Exchange.opened searchTab).follow crossing).connection.tab.signals.get? "query" ↔
      ¬ (Exchange.opened searchTab).overtakenAfter (fun _ => False) crossing "query" :=
  signals_agree_iff 0 "tab" none searchPage 1 searchTab crossing rfl
    (fun _ => crossing_heard _) ⟨rfl, rfl, rfl, rfl⟩ "query"

/-- Rest alone is not enough: the client shows the suggestion and the server has the query. -/
theorem signals_disagree_after_crossing :
    ¬ ∀ (now : Instant) (id : String) (session : Option String) (page : Page) (capacity : Nat)
        (connection : Connection) (turns : List Turn),
      Connection.fresh? now id session page capacity = some connection →
      (∀ patch,
        Happening.offered patch false ∉ (Exchange.opened connection).history turns) →
      ((Exchange.opened connection).follow turns).Quiescent →
      ∀ key, page.knowsSignal key = true →
        ((Exchange.opened connection).follow turns).client.get? key =
          ((Exchange.opened connection).follow turns).connection.tab.signals.get? key := by
  intro agree
  have same := agree 0 "tab" none searchPage 1 searchTab crossing rfl crossing_heard
    ⟨rfl, rfl, rfl, rfl⟩ "query" rfl
  have shown : ((Exchange.opened searchTab).follow crossing).client.get? "query" =
      some (.str "lean") := rfl
  have stored : ((Exchange.opened searchTab).follow crossing).connection.tab.signals.get?
      "query" = some (.str "coq") := rfl
  rw [shown, stored] at same
  simp at same

end LiveTabs
