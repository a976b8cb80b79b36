import LiveTabs.Proofs.Passages
/-!
Patches are delivered exactly once and in order, whatever channels come and go. Among the channels
of a connection only the newest yields patches, and that only as long as the connection is open.
-/
namespace LiveTabs

namespace Outbox

/-- The queue after offers one after the other. -/
def pushAll (queue : Outbox) (patches : List Patch) : Outbox :=
  patches.foldl (fun queue patch => (queue.push patch).1) queue

/-- The patches that are accepted of those that the queue is offered. -/
def accepted (queue : Outbox) : List Patch → List Patch
  | [] => []
  | patch :: rest =>
    let pushed := queue.push patch
    (if pushed.2 then [patch] else []) ++ pushed.1.accepted rest

@[simp] theorem accepted_nil (queue : Outbox) : queue.accepted [] = [] := rfl

theorem pushAll_append (queue : Outbox) (first later : List Patch) :
    queue.pushAll (first ++ later) = (queue.pushAll first).pushAll later := by
  simp [pushAll]

theorem push_full {queue : Outbox} (full : queue.isFull = true) (patch : Patch) :
    queue.push patch = (queue, false) := by
  simp [push, full]

theorem push_room {queue : Outbox} (room : queue.isFull = false) (patch : Patch) :
    queue.push patch = ({ queue with pending := queue.pending ++ [patch] }, true) := by
  simp [push, room]

theorem pushAll_pending (queue : Outbox) (patches : List Patch) :
    (queue.pushAll patches).pending = queue.pending ++ queue.accepted patches := by
  induction patches generalizing queue with
  | nil => simp [pushAll, accepted]
  | cons patch rest ih =>
    have step := ih (queue.push patch).1
    cases full : queue.isFull with
    | true => simpa [pushAll, accepted, push_full full] using step
    | false => simpa [pushAll, accepted, push_room full] using step

/-- The queue never holds more than its limit, which is given once and for all. -/
structure Within (limit : Nat) (queue : Outbox) : Prop where
  fixed : queue.limit = limit
  bounded : queue.pending.length ≤ limit

theorem Within.push {limit : Nat} {queue : Outbox} (within : queue.Within limit) (patch : Patch) :
    (queue.push patch).1.Within limit := by
  cases full : queue.isFull with
  | true =>
    rw [push_full full]
    exact within
  | false =>
    rw [push_room full]
    refine ⟨within.fixed, ?_⟩
    rw [isFull, decide_eq_false_iff_not, within.fixed] at full
    simp only [List.length_append, List.length_singleton]
    omega

theorem Within.pushAll {limit : Nat} {queue : Outbox} (within : queue.Within limit)
    (patches : List Patch) : (queue.pushAll patches).Within limit := by
  induction patches generalizing queue with
  | nil => exact within
  | cons patch rest ih => exact ih (within.push patch)

theorem Within.of_front {limit : Nat} {rest : Outbox} {front : List Patch}
    (within : Within limit { rest with pending := front ++ rest.pending }) : rest.Within limit := by
  have bounded := within.bounded
  rw [List.length_append] at bounded
  exact ⟨within.fixed, by omega⟩

theorem Within.isFull_iff {limit : Nat} {queue : Outbox} (within : queue.Within limit) :
    queue.isFull = true ↔ queue.pending.length = limit := by
  have bounded := within.bounded
  rw [isFull, decide_eq_true_eq, within.fixed]
  omega

end Outbox

namespace Scene

/-- What there is to tell of signals: one patch if some were written since the last flush. -/
def news (scene : Scene) : List Patch :=
  if scene.tab.changed.isEmpty then []
  else [.signals (scene.tab.signals.filter fun key _ => scene.tab.changed.contains key)]

/-- The patches that a deed offers to the queue. -/
def offers (scene : Scene) : Deed → List Patch
  | .elements html => [.elements html]
  | .script text => [.script text]
  | .flush => scene.news
  | .takeOver _ => []
  | .write _ _ _ => []
  | .signal _ _ => []
  | .refuse => []

theorem carryOut_queue (scene : Scene) (now : Instant) (deed : Deed) :
    (scene.carryOut now deed).queue = scene.queue.pushAll (scene.offers deed) := by
  cases deed with
  | write scope key written => exact (scene.store_frame now scope key written).2.2
  | refuse => exact (scene.refuseSession_frame now).2
  | flush =>
    cases changed : scene.tab.changed.isEmpty <;>
      simp [carryOut, offerChanged, offers, news, changed, changedSignals, enqueue, Outbox.pushAll]
  | takeOver taken => rfl
  | signal key written => rfl
  | elements html => rfl
  | script text => rfl

theorem carryOutAll_queue (scene : Scene) (now : Instant) (deeds : List Deed) :
    (scene.carryOutAll now deeds).queue = scene.queue.pushAll (scene.along now offers deeds) :=
  carryOutAll_along Scene.queue now (fun scene deed => scene.carryOut_queue now deed) scene deeds

end Scene

namespace Connection

/-- The patches that a passage offers to the queue. An unknown action offers none. -/
def offers (connection : Connection) : Passage → List Patch
  | .offer patch => [patch]
  | .work shared now mode deeds => (connection.scene shared mode).along now Scene.offers deeds
  | .move (.action shared now name signals) =>
    match connection.page.handler? name with
    | none => []
    | some handler =>
      (connection.scene shared .action).along now Scene.offers
        (connection.actionDeeds shared now name signals handler)
  | .move .pop => []
  | .move .drain => []
  | .move .subscribe => []
  | .move (.poll _) => []
  | .move (.refresh _) => []
  | .move .retire => []

def accepted (connection : Connection) (passage : Passage) : List Patch :=
  connection.queue.accepted (connection.offers passage)

/-- The patches that a passage takes out of the queue and hands to whoever asked for them. -/
def handedOut (connection : Connection) : Passage → List Patch
  | .move move => connection.taken move
  | .offer _ => []
  | .work _ _ _ _ => []

/-- An action works in the tab, unless the page does not know it. -/
theorem action_works (connection : Connection) (shared : Shared) (now : Instant) (name : String)
    (signals : KeyMap Json) :
    let action : Passage := .move (.action shared now name signals)
    (connection.undergo action = connection ∧ connection.offers action = []) ∨
      ∃ deeds, connection.undergo action = connection.undergo (.work shared now .action deeds) ∧
        connection.offers action = connection.offers (.work shared now .action deeds) := by
  cases known : connection.page.handler? name with
  | none =>
    refine .inl ⟨(runAction_unknown known shared now signals).1, ?_⟩
    simp only [offers, known]
  | some handler =>
    refine .inr ⟨connection.actionDeeds shared now name signals handler,
      (runAction_deeds known shared now signals).1, ?_⟩
    simp only [offers, known]

theorem work_queue (connection : Connection) (shared : Shared) (now : Instant) (mode : Mode)
    (deeds : List Deed) :
    (connection.undergo (.work shared now mode deeds)).queue =
      connection.queue.pushAll (connection.offers (.work shared now mode deeds)) :=
  (connection.scene shared mode).carryOutAll_queue now deeds

-- Offers come in at the one end of the queue, and at the other its patches are handed out.
theorem undergo_delivers (connection : Connection) (passage : Passage) :
    connection.handedOut passage ++ (connection.undergo passage).queue.pending =
      connection.queue.pending ++ connection.accepted passage := by
  cases passage with
  | offer patch => exact connection.queue.pushAll_pending [patch]
  | work shared now mode deeds =>
    rw [accepted, ← Outbox.pushAll_pending, ← work_queue]
    rfl
  | move move =>
    have front := connection.taken_front move
    cases move with
    | action shared now name signals =>
      obtain ⟨kept, silent⟩ | ⟨deeds, same, offered⟩ :=
        connection.action_works shared now name signals
      · simp [handedOut, taken, kept, accepted, silent]
      · rw [same, accepted, offered, ← Outbox.pushAll_pending, ← work_queue]
        rfl
    | _ => exact (congrArg Outbox.pending (front (by simp))).symm.trans (List.append_nil _).symm

theorem undergo_within {limit : Nat} {connection : Connection}
    (within : connection.queue.Within limit) (passage : Passage) :
    (connection.undergo passage).queue.Within limit := by
  cases passage with
  | offer patch => exact within.push patch
  | work shared now mode deeds =>
    rw [work_queue]
    exact within.pushAll _
  | move move =>
    have front := connection.taken_front move
    cases move with
    | action shared now name signals =>
      obtain ⟨kept, -⟩ | ⟨deeds, same, -⟩ := connection.action_works shared now name signals
      · rw [kept]
        exact within
      · rw [same, work_queue]
        exact within.pushAll _
    | _ =>
      rw [front (by simp)] at within
      exact within.of_front

theorem undergoAll_delivers (connection : Connection) (passages : List Passage) :
    connection.along handedOut passages ++ (connection.undergoAll passages).queue.pending =
      connection.queue.pending ++ connection.along accepted passages := by
  induction passages generalizing connection with
  | nil => simp [along]
  | cons passage rest ih =>
    calc connection.along handedOut (passage :: rest) ++
          (connection.undergoAll (passage :: rest)).queue.pending
        = connection.handedOut passage ++ ((connection.undergo passage).along handedOut rest ++
            ((connection.undergo passage).undergoAll rest).queue.pending) :=
          List.append_assoc _ _ _
      _ = connection.handedOut passage ++ (connection.undergo passage).queue.pending ++
            (connection.undergo passage).along accepted rest := by
          rw [ih, List.append_assoc]
      _ = connection.queue.pending ++ connection.along accepted (passage :: rest) := by
          rw [undergo_delivers, List.append_assoc]
          rfl

theorem undergoAll_within {limit : Nat} {connection : Connection}
    (within : connection.queue.Within limit) (passages : List Passage) :
    (connection.undergoAll passages).queue.Within limit := by
  induction passages generalizing connection with
  | nil => exact within
  | cons passage rest ih => exact ih (connection.undergo_within within passage)

theorem fresh?_within {now : Instant} {id : String} {session : Option String} {page : Page}
    {capacity : Nat} {connection : Connection}
    (opened : fresh? now id session page capacity = some connection) :
    connection.queue.Within (max capacity 1) := by
  rw [fresh?_eq opened]
  exact ⟨rfl, Nat.zero_le _⟩

end Connection

/-- Every patch that the queue ever accepted was handed out, once and in order, or else it waits
still. No more wait than there is room for, and a patch is refused only for want of room. -/
theorem delivered_once_in_order (now : Instant) (id : String) (session : Option String)
    (page : Page) (capacity : Nat) (connection : Connection)
    (opened : Connection.fresh? now id session page capacity = some connection)
    (passages : List Passage) :
    let reached := connection.undergoAll passages
    connection.along Connection.handedOut passages ++ reached.queue.pending =
        connection.along Connection.accepted passages ∧
      reached.queue.pending.length ≤ max capacity 1 ∧
      ∀ patch,
        ((reached.queue.push patch).2 = false ↔
          reached.queue.pending.length = max capacity 1) ∧
        ((reached.queue.push patch).2 = false → reached.undergo (.offer patch) = reached) := by
  intro reached
  have within : reached.queue.Within (max capacity 1) :=
    Connection.undergoAll_within (Connection.fresh?_within opened) passages
  have delivers := connection.undergoAll_delivers passages
  rw [(Connection.fresh?_starts opened).2, List.nil_append] at delivers
  refine ⟨delivers, within.bounded, fun patch => ?_⟩
  rw [← within.isFull_iff]
  cases full : reached.queue.isFull with
  | true => simp [Outbox.push_full full, Connection.undergo]
  | false => simp [Outbox.push_room full]

-- Two channels and a pop compete for three patches; the second patch finds the queue full.
def competing : List Passage :=
  [.offer (.script "a"), .offer (.script "b"), .move .subscribe, .move .subscribe,
    .move (.poll 1), .move (.poll 2), .offer (.script "c"), .move .retire, .move (.poll 2),
    .move .pop]

theorem delivered_once_in_order_competing :
    Connection.fresh? 0 "tab" none searchPage 0 = some searchTab ∧
      searchTab.along Connection.handedOut competing ++
          (searchTab.undergoAll competing).queue.pending =
        searchTab.along Connection.accepted competing :=
  ⟨rfl, (delivered_once_in_order 0 "tab" none searchPage 0 searchTab rfl competing).1⟩

example : searchTab.along Connection.handedOut competing = [.script "a", .script "c"] := rfl

end LiveTabs
