import Loopback.Proofs.Machine.Attaining
import Loopback.Work.Operation

/-!
# What ends of a program tell of its deeds

How a program ends can depend on what it has done and was answered. Such a relation between the deeds of a
program and its end is judged along the program alone, whatever answers it gets, and then it holds of every task
that has ended in a run.
-/

namespace Loopback

variable {ε δ α β : Type}

namespace Program

/-- Wherever a program ends, what was done by then and how it ends are in a relation, whatever it is answered. -/
def Concludes (holds : List Deed → Outcome ε α → Prop) (seen : List Deed) : Program ε α → Prop
  | .act action next => ∀ answer, (next answer).Concludes holds (seen ++ [⟨action, answer⟩])
  | .done result => holds seen (.ok result)
  | .fail failure => holds seen (.failed failure)
  | .abort message => holds seen (.aborted message)

section concluding

variable {holds holds' : List Deed → Outcome ε α → Prop} {seen : List Deed}

/-- What a program concludes with may be told more weakly. -/
theorem Concludes.mono {p : Program ε α} (h : p.Concludes holds seen)
    (himp : ∀ deeds outcome, holds deeds outcome → holds' deeds outcome) : p.Concludes holds' seen := by
  induction p generalizing seen with
  | act action next ih => exact fun answer => ih answer (h answer)
  | _ => exact himp _ _ h

/-- What concludes with two things concludes with both at once. -/
theorem Concludes.and {p : Program ε α} (h : p.Concludes holds seen) (h' : p.Concludes holds' seen) :
    p.Concludes (fun deeds outcome => holds deeds outcome ∧ holds' deeds outcome) seen := by
  induction p generalizing seen with
  | act action next ih => exact fun answer => ih answer (h answer) (h' answer)
  | _ => exact ⟨h, h'⟩

/-- What was done before stays done. -/
theorem concludes_extends {p : Program ε α} : p.Concludes (fun deeds _ => ∀ deed ∈ seen, deed ∈ deeds) seen := by
  induction p generalizing seen with
  | act action next ih =>
    exact fun answer => (ih answer).mono fun deeds _ hmem deed hdeed => hmem deed (List.mem_append_left _ hdeed)
  | _ => exact fun _ hdeed => hdeed

/-- What deeds leave of a program ends in keeping with them. -/
theorem Concludes.leads {p q : Program ε α} {deeds : List Deed} (h : p.Concludes holds seen)
    (hleads : p.Leads deeds q) : q.Concludes holds (seen ++ deeds) := by
  induction hleads generalizing seen with
  | refl p => rwa [List.append_nil]
  | act _ ih => simpa using ih (h _)

/-- A program that has ended was in keeping with what was done. -/
theorem Concludes.ended {p : Program ε α} {outcome : Outcome ε α} (h : p.Concludes holds seen)
    (hended : p.stand = .ended outcome) : holds seen outcome := by
  cases p with
  | act => cases hended
  | _ =>
    cases hended
    exact h

/-- A program that continues another goes on from what that one did, unless that one failed or was aborted. -/
theorem Concludes.bind {holds : List Deed → Outcome ε β → Prop} {p : Program ε α} {rest : α → Program ε β}
    (h : p.Concludes holds' seen)
    (hok : ∀ deeds result, holds' deeds (.ok result) → (rest result).Concludes holds deeds)
    (hfailed : ∀ deeds failure, holds' deeds (.failed failure) → holds deeds (.failed failure))
    (haborted : ∀ deeds message, holds' deeds (.aborted message) → holds deeds (.aborted message)) :
    (p >>= rest).Concludes holds seen := by
  induction p generalizing seen with
  | act action next ih => exact fun answer => ih answer (h answer)
  | done result => exact hok seen result h
  | fail failure => exact hfailed seen failure h
  | abort message => exact haborted seen message h

/-- What follows a check ends in keeping, and so does its failure. -/
theorem concludes_ofExcept_bind {holds : List Deed → Outcome ε β → Prop} {check : Except ε α}
    {rest : α → Program ε β} (hok : ∀ result, check = .ok result → (rest result).Concludes holds seen)
    (hfailed : ∀ failure, check = .error failure → holds seen (.failed failure)) :
    (ofExcept check >>= rest).Concludes holds seen := by
  cases check with
  | ok result => exact hok result rfl
  | error failure => exact hfailed failure rfl

/-- What is always done last is one deed more of the conclusion. -/
theorem Concludes.thenAlways {p : Program ε α} {last : Action}
    (h : p.Concludes (fun deeds outcome => ∀ answer, holds (deeds ++ [⟨last, answer⟩]) outcome) seen) :
    (p.thenAlways last).Concludes holds seen := by
  induction p generalizing seen with
  | act action next ih => exact fun answer => ih answer (h answer)
  | _ => exact h

/-- A program that excludes others ends when it has let them in again. -/
theorem concludes_exclusively {p : Program ε α} (h : ∀ answer, p.Concludes
    (fun deeds outcome => ∀ answer, holds (deeds ++ [⟨.leaveLifecycle, answer⟩]) outcome)
    (seen ++ [⟨.enterLifecycle, answer⟩])) : (Program.exclusively p).Concludes holds seen :=
  fun answer => (h answer).thenAlways

/-- A job ends as its program does, told in other terms. -/
theorem Concludes.job {p : Program ε α} {failure : ε → Failure} {answer : α → Answer}
    {holds : List Deed → Outcome Failure Answer → Prop}
    (h : p.Concludes (fun deeds outcome => holds deeds (outcome.told failure answer)) seen) :
    (p.job failure answer).Concludes holds seen := by
  induction p generalizing seen with
  | act action next ih => exact fun answer => ih answer (h answer)
  | _ => exact h

end concluding

end Program

/-- A task that has ended in a run was in keeping with what it did there. -/
theorem Machine.Run.concluded {start m : Machine ε α} {moves : List Move} {turns : List Turn}
    (hrun : Run start moves turns m) {task : Nat} {p : Program ε α} (hp : start.programOf? task = some p)
    {holds : List Deed → Outcome ε α → Prop} (h : p.Concludes holds []) {outcome : Outcome ε α}
    (hended : m.outcomeOf? task = some outcome) : holds (deedsOf task turns) outcome := by
  obtain ⟨q, hq, hleads⟩ := hrun.leads hp
  exact (h.leads hleads).ended (stand_of_outcomeOf? hq hended)

end Loopback
