/-!
Finite maps from strings. Entries are kept in strictly increasing order of their keys (by code
point), so a map has one representation: two maps that answer every `get?` alike are equal
(`ext_get?`).
-/
namespace LiveTabs

universe u v

structure KeyMap (α : Type u) where
  entries : List (String × α)
  ordered : entries.Pairwise fun left right => left.1 < right.1

/-- A set of strings is a map that holds nothing else. -/
abbrev KeySet := KeyMap Unit

namespace KeyMap
variable {α : Type u} {β : Type v}

def lookup (key : String) : List (String × α) → Option α
  | [] => none
  | (other, value) :: rest => if key = other then some value else lookup key rest

/-- Puts an entry in its place; an entry with the same key gives way. -/
def place (key : String) (value : α) : List (String × α) → List (String × α)
  | [] => [(key, value)]
  | (other, old) :: rest =>
    if key < other then (key, value) :: (other, old) :: rest
    else if key = other then (key, value) :: rest
    else (other, old) :: place key value rest

theorem mem_place (key : String) (value : α) (entries : List (String × α)) (entry : String × α)
    (found : entry ∈ place key value entries) : entry = (key, value) ∨ entry ∈ entries := by
  induction entries with
  | nil => simpa [place] using found
  | cons head rest ih =>
    obtain ⟨other, old⟩ := head
    simp only [place] at found
    split at found
    · simpa using found
    · split at found
      · simp only [List.mem_cons] at found ⊢
        exact found.imp id .inr
      · simp only [List.mem_cons] at found ⊢
        rcases found with same | later
        · exact .inr (.inl same)
        · exact (ih later).imp id .inr

theorem place_ordered (key : String) (value : α) (entries : List (String × α))
    (ordered : entries.Pairwise fun left right => left.1 < right.1) :
    (place key value entries).Pairwise fun left right => left.1 < right.1 := by
  induction entries with
  | nil => simp [place]
  | cons head rest ih =>
    obtain ⟨other, old⟩ := head
    have later := List.pairwise_cons.mp ordered
    by_cases before : key < other
    · simp only [place, before, if_true]
      refine List.pairwise_cons.mpr ⟨fun entry member => ?_, ordered⟩
      rcases List.mem_cons.mp member with same | inside
      · simpa [same] using before
      · exact String.lt_trans before (later.1 entry inside)
    · by_cases same : key = other
      · subst same
        simp only [place, before, if_true, if_false]
        exact List.pairwise_cons.mpr ⟨fun entry inside => later.1 entry inside, later.2⟩
      · simp only [place, before, same, if_false]
        refine List.pairwise_cons.mpr ⟨fun entry member => ?_, ih later.2⟩
        rcases mem_place key value rest entry member with placed | inside
        · subst placed
          exact (Std.lt_trichotomy other key).resolve_right
            (fun tail => tail.elim (fun equal => same equal.symm) before)
        · exact later.1 entry inside

theorem lookup_place (key other : String) (value : α) (entries : List (String × α)) :
    lookup other (place key value entries) =
      if other = key then some value else lookup other entries := by
  induction entries with
  | nil => rfl
  | cons head rest ih =>
    obtain ⟨first, old⟩ := head
    by_cases before : key < first
    · simp [place, before, lookup]
    · by_cases same : key = first
      · subst same
        by_cases hit : other = key <;> simp [place, lookup, hit]
      · simp only [place, before, same, if_false, lookup, ih]
        by_cases hit : other = first
        · have apart : ¬ first = key := fun equal => same equal.symm
          simp [hit, apart]
        · simp [hit]

def empty : KeyMap α := ⟨[], List.Pairwise.nil⟩

instance : Inhabited (KeyMap α) := ⟨empty⟩

def get? (map : KeyMap α) (key : String) : Option α := lookup key map.entries

def contains (map : KeyMap α) (key : String) : Bool := (map.get? key).isSome

def insert (map : KeyMap α) (key : String) (value : α) : KeyMap α :=
  ⟨place key value map.entries, place_ordered key value map.entries map.ordered⟩

def filter (keep : String → α → Bool) (map : KeyMap α) : KeyMap α :=
  ⟨map.entries.filter fun entry => keep entry.1 entry.2, map.ordered.filter _⟩

def erase (map : KeyMap α) (key : String) : KeyMap α := map.filter fun other _ => other != key

def mapKeyed (change : String → α → β) (source : KeyMap α) : KeyMap β :=
  ⟨source.entries.map fun entry => (entry.1, change entry.1 entry.2),
    List.pairwise_map.mpr source.ordered⟩

def map (change : α → β) (source : KeyMap α) : KeyMap β := source.mapKeyed fun _ => change

def keys (map : KeyMap α) : List String := map.entries.map Prod.fst

def size (map : KeyMap α) : Nat := map.entries.length

def isEmpty (map : KeyMap α) : Bool := map.entries.isEmpty

/-- Entries are inserted from left to right, so the last of equal keys stands. -/
def insertAll (map : KeyMap α) (entries : List (String × α)) : KeyMap α :=
  entries.foldl (fun built entry => built.insert entry.1 entry.2) map

def ofList (entries : List (String × α)) : KeyMap α := empty.insertAll entries

theorem ext_entries {left right : KeyMap α} (same : left.entries = right.entries) :
    left = right := by
  cases left
  cases right
  simpa using same

@[simp] theorem get?_empty (key : String) : (empty : KeyMap α).get? key = none := rfl

@[simp] theorem get?_insert (map : KeyMap α) (key other : String) (value : α) :
    (map.insert key value).get? other = if other = key then some value else map.get? other :=
  lookup_place key other value map.entries

theorem lookup_eq_some_iff (key : String) (value : α) (entries : List (String × α))
    (ordered : entries.Pairwise fun left right => left.1 < right.1) :
    lookup key entries = some value ↔ (key, value) ∈ entries := by
  induction entries with
  | nil => simp [lookup]
  | cons head rest ih =>
    obtain ⟨other, old⟩ := head
    have later := List.pairwise_cons.mp ordered
    by_cases same : key = other
    · subst same
      have absent : (key, value) ∉ rest := fun inside =>
        String.lt_irrefl key (later.1 (key, value) inside)
      simp [lookup, absent, eq_comm]
    · simp [lookup, same, ih later.2]

/-- Looking a key up and finding its entry are the same thing. -/
theorem get?_eq_some_iff (map : KeyMap α) (key : String) (value : α) :
    map.get? key = some value ↔ (key, value) ∈ map.entries :=
  lookup_eq_some_iff key value map.entries map.ordered

theorem ext_ordered (left right : List (String × α))
    (leftOrdered : left.Pairwise fun a b => a.1 < b.1)
    (rightOrdered : right.Pairwise fun a b => a.1 < b.1)
    (same : ∀ key, lookup key left = lookup key right) : left = right := by
  induction left generalizing right with
  | nil =>
    cases right with
    | nil => rfl
    | cons head rest => simpa [lookup] using same head.1
  | cons head rest ih =>
    cases right with
    | nil => simpa [lookup] using same head.1
    | cons other others =>
      have leftLater := List.pairwise_cons.mp leftOrdered
      have rightLater := List.pairwise_cons.mp rightOrdered
      have headIn : (head.1, head.2) ∈ other :: others := by
        rw [← lookup_eq_some_iff _ _ _ rightOrdered, ← same]
        simp [lookup]
      have otherIn : (other.1, other.2) ∈ head :: rest := by
        rw [← lookup_eq_some_iff _ _ _ leftOrdered, same]
        simp [lookup]
      have equal : head = other := by
        rcases List.mem_cons.mp headIn with hit | inside
        · exact hit
        · rcases List.mem_cons.mp otherIn with hit | within
          · exact hit.symm
          · exact absurd (String.lt_trans (leftLater.1 _ within) (rightLater.1 _ inside))
              (String.lt_irrefl _)
      subst equal
      refine congrArg (head :: ·) (ih others leftLater.2 rightLater.2 fun key => ?_)
      by_cases hit : key = head.1
      · have leftNone : lookup key rest = none := by
          cases found : lookup key rest with
          | none => rfl
          | some value =>
            have inside := (lookup_eq_some_iff key value rest leftLater.2).mp found
            exact absurd (hit ▸ leftLater.1 _ inside) (String.lt_irrefl _)
        have rightNone : lookup key others = none := by
          cases found : lookup key others with
          | none => rfl
          | some value =>
            have inside := (lookup_eq_some_iff key value others rightLater.2).mp found
            exact absurd (hit ▸ rightLater.1 _ inside) (String.lt_irrefl _)
        rw [leftNone, rightNone]
      · simpa [lookup, hit] using same key

/-- A map is determined by what its keys look up. -/
theorem ext_get? {left right : KeyMap α} (same : ∀ key, left.get? key = right.get? key) :
    left = right :=
  ext_entries (ext_ordered left.entries right.entries left.ordered right.ordered same)

@[simp] theorem get?_filter (keep : String → α → Bool) (map : KeyMap α) (key : String) :
    (map.filter keep).get? key = (map.get? key).filter (keep key) := by
  apply Option.ext
  intro value
  rw [get?_eq_some_iff, Option.filter_eq_some_iff, get?_eq_some_iff]
  simp [filter]

@[simp] theorem get?_erase (map : KeyMap α) (key other : String) :
    (map.erase key).get? other = if other = key then none else map.get? other := by
  by_cases same : other = key
  · simp [erase, same]
  · simp [erase, same]
    cases map.get? other <;> simp [same]

@[simp] theorem get?_mapKeyed (change : String → α → β) (source : KeyMap α) (key : String) :
    (source.mapKeyed change).get? key = (source.get? key).map (change key) := by
  apply Option.ext
  intro value
  rw [get?_eq_some_iff]
  constructor
  · intro found
    obtain ⟨entry, inside, made⟩ := List.mem_map.mp found
    obtain ⟨rfl, rfl⟩ := Prod.mk.inj made
    rw [(get?_eq_some_iff source entry.1 entry.2).mpr inside]
    rfl
  · intro found
    obtain ⟨old, inside, rfl⟩ := Option.map_eq_some_iff.mp found
    exact List.mem_map.mpr ⟨(key, old), (get?_eq_some_iff source key old).mp inside, rfl⟩

@[simp] theorem get?_map (change : α → β) (source : KeyMap α) (key : String) :
    (source.map change).get? key = (source.get? key).map change :=
  get?_mapKeyed (fun _ => change) source key

theorem mem_keys_iff (map : KeyMap α) (key : String) :
    key ∈ map.keys ↔ (map.get? key).isSome = true := by
  constructor
  · intro member
    obtain ⟨entry, inside, rfl⟩ := List.mem_map.mp member
    rw [(get?_eq_some_iff map entry.1 entry.2).mpr inside]
    rfl
  · intro found
    obtain ⟨value, hit⟩ := Option.isSome_iff_exists.mp found
    exact List.mem_map.mpr ⟨(key, value), (get?_eq_some_iff map key value).mp hit, rfl⟩

instance [DecidableEq α] : DecidableEq (KeyMap α) := fun left right =>
  if same : left.entries = right.entries then .isTrue (ext_entries same)
  else .isFalse fun equal => same (congrArg entries equal)

end KeyMap
end LiveTabs
