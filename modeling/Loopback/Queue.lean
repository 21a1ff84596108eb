import Loopback.Queue.Fifo
import Loopback.Text.Numeral

/-!
# Bounded queues

The line between the two ends of a loopback: bytes, and a mark for the end of the stream. An
element is queued either against the capacity or past it, and both kinds keep one common order.
A counter of its own says how many elements count against the capacity.

Waiting is not here: an operation that would have to wait answers that it cannot go on.
-/

namespace Loopback

/-- An element of a queue. -/
inductive Item where
  | byte (value : UInt8)
  | endOfStream
deriving DecidableEq, Repr

/-- An element in a queue, and whether it counts against the capacity. -/
structure Entry where
  item : Item
  counted : Bool
deriving DecidableEq, Repr

/-- A queue with a capacity. -/
structure Queue where
  capacity : Nat
  counted : Nat
  entries : Fifo Entry

namespace Queue

/-- An empty queue. A capacity of zero is taken for one. -/
def create (capacity : Nat) : Queue := ⟨max capacity 1, 0, .empty⟩

/-- How many bytes of memory an entry takes. -/
def entrySize : Nat := 3

/-- Whether the memory for a queue can be asked for at all. -/
def fitsMemory (capacity : Nat) : Bool := capacity * entrySize ≤ Text.maxSigned64

/-- What is said where it cannot. -/
def tooLarge : String := "capacity overflow"

/-- The elements, oldest first. -/
def items (q : Queue) : List Item := q.entries.toList.map (·.item)

/-- How many elements count against the capacity. -/
def length (q : Queue) : Nat := q.counted

/-- Queue an element against the capacity, if there is room. -/
def offer (q : Queue) (item : Item) : Option Queue :=
  if q.counted < q.capacity then
    some { q with counted := q.counted + 1, entries := q.entries.push ⟨item, true⟩ }
  else none

/-- Queue an element past the capacity. -/
def append (q : Queue) (item : Item) : Queue :=
  { q with entries := q.entries.push ⟨item, false⟩ }

/-- Take the oldest element. -/
def take? (q : Queue) : Option (Entry × Queue) :=
  match q.entries.pop? with
  | none => none
  | some (entry, entries) =>
    some (entry, { q with
      counted := if entry.counted then q.counted - 1 else q.counted
      entries })

/-- Drop all elements, and say how many there were. -/
def clear (q : Queue) : Nat × Queue :=
  (q.entries.length, { q with counted := 0, entries := .empty })

/-- A queue is created empty. -/
@[simp] theorem items_create (capacity : Nat) : (create capacity).items = [] := rfl

/-- There is room for one element at least. -/
theorem capacity_create (capacity : Nat) : 1 ≤ (create capacity).capacity :=
  Nat.le_max_right _ _

/-- An element that is appended comes last. -/
@[simp] theorem items_append (q : Queue) (item : Item) :
    (q.append item).items = q.items ++ [item] := by
  simp [items, append]

/-- A queue that was cleared is empty. -/
@[simp] theorem items_clear (q : Queue) : q.clear.2.items = [] := rfl

/-- Clearing says how many elements there were, counted or not. -/
theorem clear_fst (q : Queue) : q.clear.1 = q.items.length := by
  simp [clear, items]

/-- An element is refused exactly when the counted ones fill the capacity. -/
theorem offer_eq_none {q : Queue} {item : Item} : q.offer item = none ↔ q.capacity ≤ q.counted := by
  simp [offer]

/-- An element that is accepted comes last. -/
theorem items_of_offer {q r : Queue} {item : Item} (h : q.offer item = some r) :
    r.items = q.items ++ [item] := by
  unfold offer at h
  split at h
  · cases h
    simp [items]
  · cases h

/-- Nothing can be taken exactly when nothing is queued, counted or not. -/
theorem take?_eq_none {q : Queue} : q.take? = none ↔ q.items = [] := by
  unfold take? items
  cases h : q.entries.pop? with
  | none => simp [Fifo.pop?_eq_none.1 h]
  | some pair => simp [Fifo.toList_of_pop? h]

/-- The element that is taken came first. -/
theorem items_of_take? {q r : Queue} {entry : Entry} (h : q.take? = some (entry, r)) :
    q.items = entry.item :: r.items := by
  unfold take? at h
  cases hp : q.entries.pop? with
  | none => simp [hp] at h
  | some pair =>
    simp only [hp, Option.some.injEq, Prod.mk.injEq] at h
    obtain ⟨rfl, rfl⟩ := h
    simp [items, Fifo.toList_of_pop? hp]

end Queue

end Loopback
