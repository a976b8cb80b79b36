import LiveTabs.Patch
/-!
The bounded queue of patches that wait for a tab, first in and first out. A patch that finds the
queue full is dropped and the queue stays as it was.
-/
namespace LiveTabs

structure Outbox where
  limit : Nat
  pending : List Patch

namespace Outbox

/-- No queue can be made to hold more. -/
def greatestLimit : Nat := 2305843009213693951

/-- A queue always has room for one patch. There is none for a capacity beyond the greatest. -/
def ofCapacity? (capacity : Nat) : Option Outbox :=
  if max capacity 1 ≤ greatestLimit then some ⟨max capacity 1, []⟩ else none

def isFull (queue : Outbox) : Bool := decide (queue.limit ≤ queue.pending.length)

/-- The queue after an offer, and whether the patch was accepted. -/
def push (queue : Outbox) (patch : Patch) : Outbox × Bool :=
  if queue.isFull then (queue, false)
  else ({ queue with pending := queue.pending ++ [patch] }, true)

def pop (queue : Outbox) : Outbox × Option Patch :=
  match queue.pending with
  | [] => (queue, none)
  | patch :: rest => ({ queue with pending := rest }, some patch)

def drain (queue : Outbox) : Outbox × List Patch :=
  ({ queue with pending := [] }, queue.pending)

end Outbox
end LiveTabs
