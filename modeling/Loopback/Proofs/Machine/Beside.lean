import Loopback.Proofs.Machine.Rule

/-!
# Tasks set to work beside others

A machine may get more tasks while it runs. Those that were there go on from where they stand, and
the new ones are about to begin.
-/

namespace Loopback

variable {ε α : Type}

namespace Machine

/-- The machine with more tasks, which are about to begin. -/
def beside (m : Machine ε α) (programs : List (Program ε α)) : Machine ε α :=
  { m with tasks := m.tasks ++ programs.map .running }

/-- Tasks that are added leave the world as it is. -/
@[simp] theorem world_beside (m : Machine ε α) (programs : List (Program ε α)) :
    (m.beside programs).world = m.world := rfl

/-- A task that was there stands where it stood. -/
theorem tasks_beside_of_lt (m : Machine ε α) (programs : List (Program ε α)) {task : Nat}
    (h : task < m.tasks.length) : (m.beside programs).tasks[task]? = m.tasks[task]? :=
  List.getElem?_append_left h

/-- The new tasks follow those that were there. -/
theorem tasks_beside_of_le (m : Machine ε α) (programs : List (Program ε α)) {task : Nat}
    (h : m.tasks.length ≤ task) :
    (m.beside programs).tasks[task]? = (programs[task - m.tasks.length]?).map .running := by
  simp [beside, List.getElem?_append_right h]

/-- The tasks that were there keep their programs. -/
theorem programOf?_beside_of_lt (m : Machine ε α) (programs : List (Program ε α)) {task : Nat}
    (h : task < m.tasks.length) : (m.beside programs).programOf? task = m.programOf? task := by
  rw [programOf?, tasks_beside_of_lt m programs h, programOf?]

/-- The tasks that are added have the programs they were given. -/
theorem programOf?_beside_of_le (m : Machine ε α) (programs : List (Program ε α)) {task : Nat}
    (h : m.tasks.length ≤ task) :
    (m.beside programs).programOf? task = programs[task - m.tasks.length]? := by
  simp [programOf?, tasks_beside_of_le m programs h, Function.comp_def, Task.program]

/-- A new task comes next after those that were there. -/
theorem programOf?_beside_length (m : Machine ε α) (program : Program ε α) :
    (m.beside [program]).programOf? m.tasks.length = some program := by
  simp [programOf?_beside_of_le]

/-- A task that is not the new one was there. -/
theorem programOf?_of_beside {m : Machine ε α} {program p : Program ε α} {task : Nat}
    (hne : task ≠ m.tasks.length) (hp : (m.beside [program]).programOf? task = some p) :
    m.programOf? task = some p := by
  rcases Nat.lt_or_gt_of_ne hne with hlt | hgt
  · exact (programOf?_beside_of_lt m _ hlt).symm.trans hp
  · rw [programOf?_beside_of_le m _ (Nat.le_of_lt hgt), List.getElem?_eq_none (by simp; omega)] at hp
    cases hp

/-- What holds of all programs of a machine and of those that join it holds of all of them. -/
theorem forall_programOf?_beside {m : Machine ε α} {programs : List (Program ε α)}
    {holds : Program ε α → Prop} (hold : ∀ task p, m.programOf? task = some p → holds p)
    (hnew : ∀ p ∈ programs, holds p) :
    ∀ task p, (m.beside programs).programOf? task = some p → holds p := by
  intro task p hp
  rcases Nat.lt_or_ge task m.tasks.length with hlt | hge
  · exact hold task p ((programOf?_beside_of_lt m programs hlt).symm.trans hp)
  · exact hnew p (List.mem_of_getElem? ((programOf?_beside_of_le m programs hge).symm.trans hp))

end Machine

end Loopback
