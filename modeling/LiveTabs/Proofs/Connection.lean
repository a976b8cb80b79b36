import LiveTabs.Connection
/-!
What a new connection starts with, and what handing out its patches leaves alone.
-/
namespace LiveTabs.Connection

theorem fresh?_eq {now : Instant} {id : String} {session : Option String} {page : Page}
    {capacity : Nat} {connection : Connection}
    (fresh : fresh? now id session page capacity = some connection) :
    connection =
      ⟨id, session, page, Tab.fresh page.toCatalog, ⟨max capacity 1, []⟩, now, .opened 0⟩ := by
  obtain ⟨queue, room, rfl⟩ := Option.map_eq_some_iff.mp fresh
  unfold Outbox.ofCapacity? at room
  split at room
  · rw [← Option.some.inj room]
  · nomatch room

theorem fresh?_starts {now : Instant} {id : String} {session : Option String} {page : Page}
    {capacity : Nat} {connection : Connection}
    (fresh : fresh? now id session page capacity = some connection) :
    connection.tab = Tab.fresh page.toCatalog ∧ connection.queue.pending = [] := by
  rw [fresh?_eq fresh]
  exact ⟨rfl, rfl⟩

theorem subscribe_tab (connection : Connection) :
    connection.subscribe.1.tab = connection.tab := by
  unfold subscribe
  split <;> rfl

theorem subscribe_queue (connection : Connection) :
    connection.subscribe.1.queue = connection.queue := by
  unfold subscribe
  split <;> rfl

/-- A poll of any channel but the newest one takes nothing, and neither does one that comes upon an
empty queue. -/
theorem poll_cases (connection : Connection) (generation : Nat) :
    (connection.channel ≠ .opened generation ∧
        connection.poll generation = (connection, .ended)) ∨
      connection.channel = .opened generation ∧
        ((connection.queue.pending = [] ∧ connection.poll generation = (connection, .pending)) ∨
          ∃ patch rest, connection.queue.pending = patch :: rest ∧
            connection.poll generation =
              ({ connection with queue := { connection.queue with pending := rest } },
                .item patch)) := by
  by_cases newest : connection.channel = .opened generation
  · refine .inr ⟨newest, ?_⟩
    cases waiting : connection.queue.pending with
    | nil => exact .inl ⟨rfl, by simp [poll, newest, pop, Outbox.pop, waiting]⟩
    | cons patch rest =>
      exact .inr ⟨patch, rest, rfl, by simp [poll, newest, pop, Outbox.pop, waiting]⟩
  · exact .inl ⟨newest, by simp [poll, newest]⟩

theorem poll_tab (connection : Connection) (generation : Nat) :
    (connection.poll generation).1.tab = connection.tab := by
  obtain ⟨-, ended⟩ | ⟨-, ⟨-, pending⟩ | ⟨patch, rest, -, taken⟩⟩ :=
    connection.poll_cases generation
  · rw [ended]
  · rw [pending]
  · rw [taken]

end LiveTabs.Connection
