/-!
Instants and durations, both in nanoseconds; instants count from a common origin.
-/
namespace LiveTabs

abbrev Instant := Nat

abbrev Duration := Nat

def seconds (n : Nat) : Duration := n * 1000000000

/-- More than `ttl` has passed since `last`. An instant still to come has not passed at all. -/
def expired (now last : Instant) (ttl : Duration) : Bool := decide (ttl < now - last)

theorem expired_eq_false_iff (now last : Instant) (ttl : Duration) :
    expired now last ttl = false ↔ now ≤ last + ttl := by
  rw [expired, decide_eq_false_iff_not, Nat.not_lt]
  exact Nat.sub_le_iff_le_add'

end LiveTabs
