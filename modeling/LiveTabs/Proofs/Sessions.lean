import LiveTabs.Proofs.KeyMap
import LiveTabs.Session
/-!
What the sessions hold after each operation. A session that is refused holds nothing, so looking
for its values comes to the same with the refusals and without. Nor is there one with that id, as
long as none is entered under it.
-/
namespace LiveTabs.Sessions

/-- The value that a session's entry holds, refused or not. -/
def held? (sessions : Sessions) (id key : String) : Option Json :=
  (sessions.live.get? id).bind fun session => session.values.get? key

def Sealed (sessions : Sessions) : Prop :=
  ∀ id, sessions.isRefused id = true → ∀ key, sessions.held? id key = none

theorem get?_eq_held? {sessions : Sessions} (sealed : sessions.Sealed) (id key : String) :
    sessions.get? id key = sessions.held? id key := by
  cases refused : sessions.isRefused id with
  | true => simp [get?, refused, sealed id refused key]
  | false => simp [get?, refused, held?]

theorem live_ensure (sessions : Sessions) (now : Instant) (id other : String) :
    (sessions.ensure now id).live.get? other =
      if other = id then some ((sessions.live.get? id).getD ⟨KeyMap.empty, now⟩)
      else sessions.live.get? other := by
  cases found : sessions.live.get? id with
  | none => simp [ensure, contains, KeyMap.contains, found]
  | some entry =>
    by_cases same : other = id <;> simp [ensure, contains, KeyMap.contains, found, same]

theorem live_refresh (sessions : Sessions) (now : Instant) (id other : String) :
    (sessions.refresh now id).live.get? other =
      if other = id then
        (sessions.live.get? id).map fun entry =>
          { entry with lastAccess := max entry.lastAccess now }
      else sessions.live.get? other := by
  cases found : sessions.live.get? id with
  | none => by_cases same : other = id <;> simp [refresh, found, same]
  | some entry => by_cases same : other = id <;> simp [refresh, found, same]

theorem live_put (sessions : Sessions) (id key : String) (value : Json) (other : String) :
    (sessions.put id key value).live.get? other =
      if other = id then
        (sessions.live.get? id).map fun entry =>
          { entry with values := entry.values.insert key value }
      else sessions.live.get? other := by
  cases found : sessions.live.get? id with
  | none => by_cases same : other = id <;> simp [put, found, same]
  | some entry => by_cases same : other = id <;> simp [put, found, same]

theorem live_set (sessions : Sessions) (now : Instant) (id key : String) (value : Json)
    (other : String) :
    (sessions.set now id key value).1.live.get? other =
      if sessions.isRefused id = false ∧ other = id then
        some (let entry := (sessions.live.get? id).getD ⟨KeyMap.empty, now⟩
          { entry with values := entry.values.insert key value })
      else sessions.live.get? other := by
  cases refused : sessions.isRefused id with
  | true => simp [set, refused]
  | false => by_cases same : other = id <;> simp [set, refused, live_put, live_ensure, same]

theorem live_refuse (sessions : Sessions) (now : Instant) (id other : String) :
    (sessions.refuse now id).live.get? other =
      if other = id then none else sessions.live.get? other := KeyMap.get?_erase _ id other

theorem refused_refuse (sessions : Sessions) (now : Instant) (id other : String) :
    (sessions.refuse now id).refused.get? other =
      if other = id then some now else sessions.refused.get? other :=
  KeyMap.get?_insert _ id other now

@[simp] theorem refused_ensure (sessions : Sessions) (now : Instant) (id : String) :
    (sessions.ensure now id).refused = sessions.refused := by
  unfold ensure
  split <;> rfl

@[simp] theorem refused_refresh (sessions : Sessions) (now : Instant) (id : String) :
    (sessions.refresh now id).refused = sessions.refused := by
  unfold refresh
  split <;> rfl

@[simp] theorem refused_put (sessions : Sessions) (id key : String) (value : Json) :
    (sessions.put id key value).refused = sessions.refused := by
  unfold put
  split <;> rfl

@[simp] theorem refused_set (sessions : Sessions) (now : Instant) (id key : String)
    (value : Json) : (sessions.set now id key value).1.refused = sessions.refused := by
  unfold set
  split <;> simp

theorem held?_ensure (sessions : Sessions) (now : Instant) (id other key : String) :
    (sessions.ensure now id).held? other key = sessions.held? other key := by
  rw [held?, held?, live_ensure]
  by_cases same : other = id
  · subst same
    cases found : sessions.live.get? other <;> simp
  · rw [if_neg same]

theorem held?_refresh (sessions : Sessions) (now : Instant) (id other key : String) :
    (sessions.refresh now id).held? other key = sessions.held? other key := by
  rw [held?, held?, live_refresh]
  by_cases same : other = id
  · subst same
    cases found : sessions.live.get? other <;> simp
  · rw [if_neg same]

theorem get?_congr {left right : Sessions} {id key : String}
    (refused : left.refused = right.refused) (held : left.held? id key = right.held? id key) :
    left.get? id key = right.get? id key := by
  unfold held? at held
  unfold get? isRefused
  rw [refused, held]

theorem get?_ensure (sessions : Sessions) (now : Instant) (id other key : String) :
    (sessions.ensure now id).get? other key = sessions.get? other key :=
  get?_congr (sessions.refused_ensure now id) (sessions.held?_ensure now id other key)

theorem get?_refresh (sessions : Sessions) (now : Instant) (id other key : String) :
    (sessions.refresh now id).get? other key = sessions.get? other key :=
  get?_congr (sessions.refused_refresh now id) (sessions.held?_refresh now id other key)

theorem held?_put (sessions : Sessions) (id key : String) (value : Json)
    (known : sessions.contains id = true) (other asked : String) :
    (sessions.put id key value).held? other asked =
      if other = id ∧ asked = key then some value else sessions.held? other asked := by
  obtain ⟨session, found⟩ := (KeyMap.contains_iff _ _).mp known
  by_cases same : other = id
  · subst same
    simp [held?, live_put, found]
  · simp [held?, live_put, same]

theorem contains_ensure (sessions : Sessions) (now : Instant) (id : String) :
    (sessions.ensure now id).contains id = true := by
  simp [contains, KeyMap.contains, live_ensure]

theorem held?_set (sessions : Sessions) (now : Instant) (id key : String) (value : Json)
    (other asked : String) :
    (sessions.set now id key value).1.held? other asked =
      if (sessions.set now id key value).2 = true ∧ other = id ∧ asked = key then some value
      else sessions.held? other asked := by
  cases refused : sessions.isRefused id with
  | true => simp [set, refused]
  | false =>
    have put := held?_put (sessions.ensure now id) id key value
      (sessions.contains_ensure now id) other asked
    simpa [set, refused, held?_ensure] using put

theorem held?_refuse (sessions : Sessions) (now : Instant) (id other key : String) :
    (sessions.refuse now id).held? other key =
      if other = id then none else sessions.held? other key := by
  by_cases same : other = id <;> simp [held?, live_refuse, same]

/-- An entry that is swept away takes its values along. -/
theorem held?_sweep (sessions : Sessions) (now : Instant) (ttl : Duration) (id key : String) :
    (sessions.sweep now ttl).held? id key =
      if (sessions.sweep now ttl).contains id then sessions.held? id key else none := by
  cases found : sessions.live.get? id with
  | none => simp [sweep, held?, contains, KeyMap.contains, found]
  | some session =>
    cases old : expired now session.lastAccess ttl <;>
      simp [sweep, held?, contains, KeyMap.contains, found, old, Option.filter]

theorem sealed_empty : Sealed empty := by
  intro id refused
  exact absurd refused (by simp [isRefused, empty])

-- Fewer refusals and fewer values leave nothing unsealed.
theorem Sealed.mono {sessions after : Sessions} (sealed : sessions.Sealed)
    (refusals : ∀ id, after.isRefused id = true → sessions.isRefused id = true)
    (values : ∀ id key, sessions.held? id key = none → after.held? id key = none) :
    after.Sealed :=
  fun id refused key => values id key (sealed id (refusals id refused) key)

theorem sealed_ensure {sessions : Sessions} (sealed : sessions.Sealed) (now : Instant)
    (id : String) : (sessions.ensure now id).Sealed := by
  refine sealed.mono (fun other refused => ?_) fun other key none => ?_
  · simpa [isRefused] using refused
  · rw [held?_ensure]
    exact none

theorem sealed_refresh {sessions : Sessions} (sealed : sessions.Sealed) (now : Instant)
    (id : String) : (sessions.refresh now id).Sealed := by
  refine sealed.mono (fun other refused => ?_) fun other key none => ?_
  · simpa [isRefused] using refused
  · rw [held?_refresh]
    exact none

theorem sealed_set {sessions : Sessions} (sealed : sessions.Sealed) (now : Instant)
    (id key : String) (value : Json) : (sessions.set now id key value).1.Sealed := by
  intro other refused asked
  rw [isRefused, refused_set] at refused
  rw [held?_set, sealed other refused asked]
  -- A write is only accepted where nothing is refused.
  refine if_neg ?_
  rintro ⟨accepted, rfl, -⟩
  simp [set, isRefused, refused] at accepted

theorem sealed_refuse {sessions : Sessions} (sealed : sessions.Sealed) (now : Instant)
    (id : String) : (sessions.refuse now id).Sealed := by
  intro other refused key
  rw [held?_refuse]
  by_cases same : other = id
  · rw [if_pos same]
  · rw [if_neg same]
    refine sealed other ?_ key
    simpa [refuse, isRefused, same] using refused

theorem sealed_sweep {sessions : Sessions} (sealed : sessions.Sealed) (now : Instant)
    (ttl : Duration) : (sessions.sweep now ttl).Sealed := by
  refine sealed.mono (fun other refused => ?_) fun other key none => ?_
  · obtain ⟨since, found⟩ := (KeyMap.contains_iff _ _).mp refused
    rw [sweep, KeyMap.get?_filter] at found
    exact (KeyMap.contains_iff _ _).mpr ⟨since, (Option.filter_eq_some_iff.mp found).1⟩
  · rw [held?_sweep, none, ite_self]

@[simp] theorem contains_ensure_other (sessions : Sessions) (now : Instant) (id other : String) :
    (sessions.ensure now id).contains other = (decide (other = id) || sessions.contains other) := by
  by_cases same : other = id <;> simp [contains, KeyMap.contains, live_ensure, same]

@[simp] theorem contains_refresh (sessions : Sessions) (now : Instant) (id other : String) :
    (sessions.refresh now id).contains other = sessions.contains other := by
  by_cases same : other = id <;> simp [contains, KeyMap.contains, live_refresh, same]

@[simp] theorem contains_put (sessions : Sessions) (id key : String) (value : Json)
    (other : String) : (sessions.put id key value).contains other = sessions.contains other := by
  by_cases same : other = id <;> simp [contains, KeyMap.contains, live_put, same]

/-- No session is refused and there at once. -/
def Apart (sessions : Sessions) : Prop :=
  ∀ id, sessions.isRefused id = true → sessions.contains id = false

theorem apart_empty : Apart empty := fun _ _ => rfl

theorem apart_ensure {sessions : Sessions} (apart : sessions.Apart) (now : Instant) {id : String}
    (admitted : sessions.isRefused id = false) : (sessions.ensure now id).Apart := by
  intro other refused
  rw [isRefused, refused_ensure] at refused
  have different : other ≠ id := by
    rintro rfl
    rw [isRefused, refused] at admitted
    nomatch admitted
  simpa [different] using apart other refused

theorem apart_refresh {sessions : Sessions} (apart : sessions.Apart) (now : Instant)
    (id : String) : (sessions.refresh now id).Apart := by
  intro other refused
  rw [isRefused, refused_refresh] at refused
  simpa using apart other refused

theorem apart_set {sessions : Sessions} (apart : sessions.Apart) (now : Instant)
    (id key : String) (value : Json) : (sessions.set now id key value).1.Apart := by
  cases refused : sessions.isRefused id with
  | true => simpa [set, refused] using apart
  | false =>
    intro other refusal
    rw [isRefused, refused_set] at refusal
    simpa [set, refused] using apart_ensure apart now refused other (by simpa [isRefused])

theorem apart_refuse {sessions : Sessions} (apart : sessions.Apart) (now : Instant)
    (id : String) : (sessions.refuse now id).Apart := by
  intro other refused
  by_cases same : other = id
  · simp [refuse, contains, KeyMap.contains, same]
  · simp only [refuse, isRefused, KeyMap.contains_insert, same, decide_false, Bool.false_or]
      at refused
    simpa [refuse, contains, KeyMap.contains, same] using apart other refused

theorem apart_sweep {sessions : Sessions} (apart : sessions.Apart) (now : Instant)
    (ttl : Duration) : (sessions.sweep now ttl).Apart := by
  intro other refused
  obtain ⟨since, found⟩ := (KeyMap.contains_iff _ _).mp refused
  rw [sweep, KeyMap.get?_filter] at found
  have before := (KeyMap.contains_iff _ _).mpr ⟨since, (Option.filter_eq_some_iff.mp found).1⟩
  have absent := (KeyMap.contains_eq_false_iff _ _).mp (apart other before)
  simp [sweep, contains, KeyMap.contains, absent]

/-- A property that all that is done to the sessions keeps, other than entering one. -/
structure Kept (kept : Sessions → Prop) : Prop where
  refresh : ∀ {sessions : Sessions}, kept sessions → ∀ now id, kept (sessions.refresh now id)
  set : ∀ {sessions : Sessions}, kept sessions →
    ∀ now id key value, kept (sessions.set now id key value).1
  refuse : ∀ {sessions : Sessions}, kept sessions → ∀ now id, kept (sessions.refuse now id)
  sweep : ∀ {sessions : Sessions}, kept sessions → ∀ now ttl, kept (sessions.sweep now ttl)

theorem sealed_kept : Kept Sealed := ⟨sealed_refresh, sealed_set, sealed_refuse, sealed_sweep⟩

theorem apart_kept : Kept Apart := ⟨apart_refresh, apart_set, apart_refuse, apart_sweep⟩

/-- Nothing can be done with a session that somebody logged out of. -/
structure LoggedOut (sessions : Sessions) (id : String) : Prop where
  refused : sessions.isRefused id = true
  absent : sessions.contains id = false
  unread : ∀ key, sessions.get? id key = none
  unwritten : ∀ now key value, sessions.set now id key value = (sessions, false)
  resolved : ∀ now fresh cookie, Text.trim cookie = id →
    (sessions.resolve now fresh (some cookie)).2 = ⟨fresh, true⟩

theorem loggedOut_of_refused {sessions : Sessions} (apart : sessions.Apart) {id : String}
    (refused : sessions.isRefused id = true) : sessions.LoggedOut id := by
  refine ⟨refused, apart id refused, fun key => by simp [get?, refused], ?_, ?_⟩
  · intro now key value
    simp [set, refused]
  · intro now fresh cookie named
    simp [resolve, named, refused, Option.filter]

end LiveTabs.Sessions
