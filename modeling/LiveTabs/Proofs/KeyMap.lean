import LiveTabs.KeyMap
/-!
What a map looks up after a whole list of entries went into it, which keys it has, and when it is
empty.
-/
namespace LiveTabs.KeyMap

universe u v
variable {α : Type u}

@[simp] theorem insertAll_nil (map : KeyMap α) : map.insertAll [] = map := rfl

@[simp] theorem insertAll_cons (map : KeyMap α) (entry : String × α)
    (rest : List (String × α)) :
    map.insertAll (entry :: rest) = (map.insert entry.1 entry.2).insertAll rest := rfl

/-- Each entry for a key replaces what was found for it before. -/
theorem get?_insertAll (map : KeyMap α) (entries : List (String × α)) (key : String) :
    (map.insertAll entries).get? key =
      entries.foldl (fun found entry => if key = entry.1 then some entry.2 else found)
        (map.get? key) := by
  induction entries generalizing map with
  | nil => rfl
  | cons entry rest ih => rw [insertAll_cons, ih, get?_insert, List.foldl_cons]

/-- Below the head of ordered entries its key is not found again. -/
theorem lookup_eq_none_of_before (key : String) (entries : List (String × α))
    (before : ∀ entry ∈ entries, key < entry.1) : lookup key entries = none := by
  induction entries with
  | nil => rfl
  | cons entry rest ih =>
    have apart : key ≠ entry.1 := by
      intro same
      have less := before entry List.mem_cons_self
      exact String.lt_irrefl key (same ▸ less)
    have tail := ih fun other member => before other (List.mem_cons_of_mem entry member)
    simp [lookup, apart, tail]

theorem get?_insertAll_ordered (map : KeyMap α) (entries : List (String × α))
    (ordered : entries.Pairwise fun left right => left.1 < right.1) (key : String) :
    (map.insertAll entries).get? key = (lookup key entries).or (map.get? key) := by
  induction entries generalizing map with
  | nil => rfl
  | cons entry rest ih =>
    have later := List.pairwise_cons.mp ordered
    rw [insertAll_cons, ih _ later.2, get?_insert]
    by_cases same : key = entry.1
    · subst same
      have absent := lookup_eq_none_of_before entry.1 rest later.1
      simp [lookup, absent]
    · simp [lookup, same]

/-- The entries of one map laid over another: the first map is asked first. -/
@[simp] theorem get?_insertAll_entries (map upper : KeyMap α) (key : String) :
    (map.insertAll upper.entries).get? key = (upper.get? key).or (map.get? key) :=
  get?_insertAll_ordered map upper.entries upper.ordered key

theorem get?_insertAll_absent (map : KeyMap α) (entries : List (String × α)) (key : String)
    (absent : key ∉ entries.map Prod.fst) : (map.insertAll entries).get? key = map.get? key := by
  induction entries generalizing map with
  | nil => rfl
  | cons entry rest ih =>
    rw [List.map_cons, List.mem_cons, not_or] at absent
    rw [insertAll_cons, ih _ absent.2, get?_insert, if_neg absent.1]

/-- Where no key comes twice, every entry is found. -/
theorem get?_insertAll_of_mem (map : KeyMap α) (entries : List (String × α))
    (unique : (entries.map Prod.fst).Nodup) (entry : String × α) (member : entry ∈ entries) :
    (map.insertAll entries).get? entry.1 = some entry.2 := by
  induction entries generalizing map with
  | nil => cases member
  | cons head rest ih =>
    rw [List.map_cons, List.nodup_cons] at unique
    rw [insertAll_cons]
    rcases List.mem_cons.mp member with same | later
    · rw [same, get?_insertAll_absent _ rest head.1 unique.1, get?_insert, if_pos rfl]
    · exact ih _ unique.2 later

theorem contains_iff (map : KeyMap α) (key : String) :
    map.contains key = true ↔ ∃ value, map.get? key = some value :=
  Option.isSome_iff_exists

theorem contains_eq_false_iff (map : KeyMap α) (key : String) :
    map.contains key = false ↔ map.get? key = none := by
  simp [contains]

@[simp] theorem contains_empty (key : String) : (empty : KeyMap α).contains key = false := rfl

@[simp] theorem contains_insert (map : KeyMap α) (key other : String) (value : α) :
    (map.insert key value).contains other = (decide (other = key) || map.contains other) := by
  by_cases same : other = key <;> simp [contains, same]

@[simp] theorem contains_insertAll_entries (map upper : KeyMap α) (key : String) :
    (map.insertAll upper.entries).contains key = (upper.contains key || map.contains key) := by
  simp [contains]

theorem contains_insertAll_iff (map : KeyMap α) (entries : List (String × α)) (key : String) :
    (map.insertAll entries).contains key = true ↔
      key ∈ entries.map Prod.fst ∨ map.contains key = true := by
  induction entries generalizing map with
  | nil => simp
  | cons entry rest ih =>
    rw [insertAll_cons, ih, contains_insert, Bool.or_eq_true, decide_eq_true_eq, List.map_cons,
      List.mem_cons, or_left_comm, or_assoc]

/-- A filter that looks at keys only. -/
@[simp] theorem contains_filter_key (keep : String → Bool) (map : KeyMap α) (key : String) :
    (map.filter fun other _ => keep other).contains key = (map.contains key && keep key) := by
  cases found : map.get? key <;> cases kept : keep key <;>
    simp [contains, found, kept]

theorem keys_map {β : Type v} (change : α → β) (source : KeyMap α) :
    (source.map change).keys = source.keys := by
  simp [keys, map, mapKeyed]

/-- Keys stand in order, so that two maps that have the same ones list them alike. -/
theorem keys_eq_of_contains {left right : KeyMap α}
    (same : ∀ key, left.contains key = right.contains key) : left.keys = right.keys := by
  have blank : left.map (fun _ => ()) = right.map fun _ => () := by
    apply ext_get?
    intro key
    have both := same key
    unfold contains at both
    rw [get?_map, get?_map]
    cases here : left.get? key <;> cases there : right.get? key <;> simp_all
  rw [← keys_map (fun _ => ()) left, blank, keys_map]

theorem isEmpty_iff (map : KeyMap α) :
    map.isEmpty = true ↔ ∀ key, map.contains key = false := by
  constructor
  · intro none key
    have same : map = empty := ext_entries (List.isEmpty_iff.mp none)
    rw [same, contains_empty]
  · intro absent
    have same : map = empty := ext_get? fun key => by
      rw [(contains_eq_false_iff map key).mp (absent key), get?_empty]
    rw [same]
    rfl

theorem isEmpty_eq_false_iff (map : KeyMap α) :
    map.isEmpty = false ↔ ∃ key, map.contains key = true := by
  rw [← Bool.not_eq_true, isEmpty_iff]
  simp

end LiveTabs.KeyMap
