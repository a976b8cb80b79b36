import LiveTabs.Proofs.Changes
import LiveTabs.Proofs.SignalAccount
/-!
What a connection undergoes, as a list of passages. They take in all that can be done with one
connection; and what a run of the application does to the connection at a place is a list of
passages too, whoever asked for it and by whatever route.
-/
namespace LiveTabs

/-- A patch offered from anywhere, work done in the tab from anywhere, or a move of its own. Whoever
drops a push channel does nothing to the connection. -/
inductive Passage where
  | offer (patch : Patch)
  | work (shared : Shared) (now : Instant) (mode : Mode) (deeds : List Deed)
  | move (move : Move)

namespace Connection

def undergo (connection : Connection) : Passage → Connection
  | .offer patch => { connection with queue := (connection.queue.push patch).1 }
  | .work shared now mode deeds => (connection.work shared now mode deeds).1
  | .move move => connection.move move

def undergoAll (connection : Connection) (passages : List Passage) : Connection :=
  passages.foldl undergo connection

@[simp] theorem undergoAll_nil (connection : Connection) : connection.undergoAll [] = connection :=
  rfl

@[simp] theorem undergoAll_cons (connection : Connection) (passage : Passage)
    (rest : List Passage) :
    connection.undergoAll (passage :: rest) = (connection.undergo passage).undergoAll rest := rfl

/-- What each passage gives rise to where it finds the connection. -/
def along {α : Type} (events : Connection → Passage → List α) (connection : Connection) :
    List Passage → List α
  | [] => []
  | passage :: rest => events connection passage ++ (connection.undergo passage).along events rest

end Connection

namespace App

/-- What a change does to the connection at a place. A connection is shut down when it is closed,
when it is swept, and when another one takes its id. -/
def passages (place : Nat) (now : Instant) (app : App) : Change → List Passage
  | .touch other => if other = place then [.move (.refresh now)] else []
  | .work other mode deeds => if other = place then [.work app.shared now mode deeds] else []
  | .subscribe other => if other = place then [.move .subscribe] else []
  | .poll channel => if channel.place = place then [.move (.poll channel.generation)] else []
  | .pop other => if other = place then [.move .pop] else []
  | .drain other => if other = place then [.move .drain] else []
  | .connect id session page =>
    if (app.connect now id session page).isSome ∧ app.place? id = some place then [.move .retire]
    else []
  | .close id => if app.place? id = some place then [.move .retire] else []
  | .sweep instant ttl =>
    ((app.registered.filter fun _ other => app.isExpired instant ttl other).entries.filter
      fun entry => entry.2 == place).map fun _ => .move .retire
  | .ensureSession _ => []
  | .refreshSession _ => []
  | .setSession _ _ _ => []
  | .refuseSession _ => []
  | .setApplication _ _ => []
  | .number _ => []

section
variable {app : App} {place : Nat} {connection : Connection}
  (here : app.connections[place]? = some connection)
include here

theorem modify_found (other : Nat) (change : Connection → Connection) :
    (app.modify other change).connections[place]? =
      some (if other = place then change connection else connection) := by
  by_cases same : other = place <;> simp [modify, here, same]

theorem retired_found (gone : List (String × Nat)) :
    (gone.foldl (fun app entry => app.modify entry.2 Connection.retire) app).connections[place]? =
      some (connection.undergoAll
        ((gone.filter fun entry => entry.2 == place).map fun _ => .move .retire)) := by
  induction gone generalizing app connection with
  | nil => exact here
  | cons entry rest ih =>
    rw [List.foldl_cons, ih (modify_found here entry.2 Connection.retire)]
    by_cases same : entry.2 = place
    · simp [same, Connection.undergo, Connection.move]
    · simp [same]

theorem register_found (other : Connection) :
    (app.register other).connections[place]? =
      some (if app.place? other.id = some place then connection.retire else connection) := by
  have inside := (List.getElem?_eq_some_iff.mp here).1
  cases placed : app.place? other.id with
  | none => simp [register, placed, List.getElem?_append_left inside, here]
  | some old =>
    have there := modify_found here old Connection.retire
    have still := (List.getElem?_eq_some_iff.mp there).1
    simp only [register, placed, List.getElem?_append_left still, there, Option.some.injEq]

end

/-- A change does to the connection at a place what its passages do. -/
theorem apply_passages {app : App} {place : Nat} {connection : Connection}
    (here : app.connections[place]? = some connection) (now : Instant) (change : Change) :
    (app.apply now change).connections[place]? =
      some (connection.undergoAll (app.passages place now change)) := by
  have one (other : Nat) (passage : Passage) :
      some (if other = place then connection.undergo passage else connection) =
        some (connection.undergoAll (if other = place then [passage] else [])) := by
    by_cases same : other = place <;> simp [same]
  cases change with
  | touch other => exact (modify_found here other _).trans (one other (.move (.refresh now)))
  | pop other => exact (modify_found here other _).trans (one other (.move .pop))
  | drain other => exact (modify_found here other _).trans (one other (.move .drain))
  | subscribe other =>
    rw [apply, subscribeAt_eq_modify]
    exact (modify_found here other _).trans (one other (.move .subscribe))
  | poll channel =>
    rw [apply, poll_eq_modify]
    exact (modify_found here channel.place _).trans
      (one channel.place (.move (.poll channel.generation)))
  | work other mode deeds =>
    cases found : app.connections[other]? with
    | none =>
      have apart : other ≠ place := by
        rintro rfl
        simp [here] at found
      simpa [apply, work, found, passages, apart] using here
    | some current =>
      have worked := setConnection_eq_modify found
        fun connection => (connection.work app.shared now mode deeds).1
      simp only [apply, work, found, worked]
      exact (modify_found here other _).trans (one other (.work app.shared now mode deeds))
  | connect id session page =>
    cases fresh : Connection.fresh? now id session page app.config.patchQueueCapacity with
    | none => simpa [apply, connect, fresh, passages] using here
    | some opened =>
      have named : opened.id = id := by rw [Connection.fresh?_eq fresh]
      have there := register_found here opened
      rw [named] at there
      by_cases taken : app.place? id = some place <;>
        simpa [apply, connect, fresh, passages, taken, Connection.undergo, Connection.move] using there
  | close id =>
    cases placed : app.place? id with
    | none => simpa [apply, close, placed, passages] using here
    | some other =>
      have there := (modify_found here other Connection.retire).trans (one other (.move .retire))
      simpa [apply, close, placed, passages] using there
  | sweep instant ttl => exact retired_found here _
  | ensureSession id => exact here
  | refreshSession id => exact here
  | setSession id key value => exact here
  | refuseSession id => exact here
  | setApplication key value => exact here
  | number ids => exact here

end App

theorem Connection.foldl_undergo (connection : Connection) (passages : List Passage) :
    passages.foldl (fun found passage => found.map fun connection => connection.undergo passage)
      (some connection) = some (connection.undergoAll passages) := by
  induction passages generalizing connection with
  | nil => rfl
  | cons passage rest ih => exact ih (connection.undergo passage)

def Scenario.passages (scenario : Scenario) (place : Nat) (steps : List (Instant × Step)) :
    List Passage :=
  scenario.along (App.passages place) steps

/-- A run does to the connection at a place what its passages do. -/
theorem Scenario.reached_passages {scenario : Scenario} {place : Nat} {connection : Connection}
    (here : scenario.app.connections[place]? = some connection) (steps : List (Instant × Step)) :
    (scenario.reached steps).app.connections[place]? =
      some (connection.undergoAll (scenario.passages place steps)) := by
  rw [← connection.foldl_undergo, ← here]
  refine reached_along (fun app => ∃ connection, app.connections[place]? = some connection)
    (fun app => app.connections[place]?) ?_ ?_ scenario steps ⟨connection, here⟩
  · rintro now app change ⟨found, there⟩
    exact ⟨_, App.apply_passages there now change⟩
  · rintro now app change ⟨found, there⟩
    rw [App.apply_passages there now change, there, found.foldl_undergo]

end LiveTabs
