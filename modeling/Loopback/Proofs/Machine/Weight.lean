import Loopback.Proofs.Machine.Change
import Mathlib.Algebra.Ring.Nat

/-!
# Weighing tasks

A weight on tasks gives a machine the sum of its tasks' weights. A change moves few tasks, so the
sum moves by what these weighed and weigh now; counting arguments over all tasks come down to that.
-/

namespace Loopback

variable {ε α : Type}

namespace Machine

/-- The sum of the weights of all tasks. -/
def total (weight : Task ε α → Nat) (m : Machine ε α) : Nat := (m.tasks.map weight).sum

/-- Replacing one member of a list changes a sum over it by the difference. -/
theorem sum_map_set {τ : Type} (weight : τ → Nat) {members : List τ} {i : Nat} {t : τ}
    (h : members[i]? = some t) (t' : τ) :
    ((members.set i t').map weight).sum + weight t = (members.map weight).sum + weight t' := by
  induction members generalizing i with
  | nil => simp at h
  | cons first rest ih =>
    cases i with
    | zero =>
      obtain rfl := Option.some.inj h
      simp only [List.set_cons_zero, List.map_cons, List.sum_cons]
      omega
    | succ i =>
      have hrest := ih (List.getElem?_cons_succ.symm.trans h)
      simp only [List.set_cons_succ, List.map_cons, List.sum_cons]
      omega

/-- Moving one task changes the sum by the difference of its weights. -/
theorem total_setTask (weight : Task ε α → Nat) {m : Machine ε α} {task : Nat} {t : Task ε α}
    (h : m.tasks[task]? = some t) (state : Task ε α) :
    (m.setTask task state).total weight + weight t = m.total weight + weight state :=
  sum_map_set weight h state

/-- A caller and the sleeper that it wakes change the sum by the differences of their weights. -/
theorem total_woke (weight : Task ε α → Nat) {m : Machine ε α} {caller sleeper : Nat}
    {t s : Task ε α} (hcaller : m.tasks[caller]? = some t) (hsleeper : m.tasks[sleeper]? = some s)
    (hne : sleeper ≠ caller) (t' s' : Task ε α) :
    ((m.setTask sleeper s').setTask caller t').total weight + weight t + weight s =
      m.total weight + weight t' + weight s' := by
  have hcaller' : (m.setTask sleeper s').tasks[caller]? = some t := by
    simpa [setTask, hne] using hcaller
  have hfirst := total_setTask weight hsleeper s'
  have hsecond := total_setTask weight hcaller' t'
  omega

end Machine

end Loopback
