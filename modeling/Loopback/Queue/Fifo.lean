/-!
# First in, first out

A sequence that grows at its end and shrinks at its front. It is kept as its front part and its
back part, the latter in reverse, so that both ends are at hand; what it holds is `toList`.
-/

namespace Loopback

/-- A sequence in two parts. -/
structure Fifo (α : Type) where
  front : List α
  back : List α

namespace Fifo

variable {α : Type}

/-- The elements, oldest first. -/
def toList (q : Fifo α) : List α := q.front ++ q.back.reverse

/-- No elements. -/
def empty : Fifo α := ⟨[], []⟩

/-- Add an element at the end. -/
def push (q : Fifo α) (a : α) : Fifo α := ⟨q.front, a :: q.back⟩

/-- The oldest element and the others. -/
def pop? (q : Fifo α) : Option (α × Fifo α) :=
  match q.front with
  | a :: front => some (a, ⟨front, q.back⟩)
  | [] =>
    match q.back.reverse with
    | [] => none
    | a :: front => some (a, ⟨front, []⟩)

/-- How many elements there are. -/
def length (q : Fifo α) : Nat := q.front.length + q.back.length

/-- There is nothing in the empty queue. -/
@[simp] theorem toList_empty : (empty : Fifo α).toList = [] := rfl

/-- What is pushed comes last. -/
@[simp] theorem toList_push (q : Fifo α) (a : α) : (q.push a).toList = q.toList ++ [a] := by
  simp [toList, push]

/-- The length is that of the list. -/
@[simp] theorem length_toList (q : Fifo α) : q.toList.length = q.length := by
  simp [toList, length]

/-- Nothing can be taken exactly when there is nothing. -/
theorem pop?_eq_none {q : Fifo α} : q.pop? = none ↔ q.toList = [] := by
  obtain ⟨front, back⟩ := q
  cases front with
  | cons a front => simp [pop?, toList]
  | nil =>
    cases h : back.reverse with
    | nil => simp [pop?, toList, h]
    | cons a rest => simp [pop?, toList, h]

/-- What is taken is the oldest element, and the others stay in order. -/
theorem toList_of_pop? {q rest : Fifo α} {a : α} (h : q.pop? = some (a, rest)) :
    q.toList = a :: rest.toList := by
  obtain ⟨front, back⟩ := q
  cases front with
  | cons b front =>
    simp only [pop?, Option.some.injEq, Prod.mk.injEq] at h
    obtain ⟨rfl, rfl⟩ := h
    rfl
  | nil =>
    cases hr : back.reverse with
    | nil => simp [pop?, hr] at h
    | cons b more =>
      simp only [pop?, hr, Option.some.injEq, Prod.mk.injEq] at h
      obtain ⟨rfl, rfl⟩ := h
      simp [toList, hr]

end Fifo

end Loopback
