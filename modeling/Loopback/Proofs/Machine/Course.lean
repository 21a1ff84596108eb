import Loopback.Proofs.Machine.Change

/-!
# The course of a program

What a program does depends on nothing but the answers it gets. `Leads` says what is left of it
after certain deeds, and `Along` that something holds of its deeds and of where it stands, at every
point of its course, so long as the answers are of an expected kind. The rules for `Along` follow
the ways in which programs are built, so that a call is judged from its parts, with no regard to
other tasks.
-/

namespace Loopback

variable {ε δ α β : Type}

/-- Where a program stands: before an action, or at its end. -/
inductive Stand (ε α : Type) where
  | before (action : Action)
  | ended (outcome : Outcome ε α)

namespace Stand

/-- The same stand with result and failure told in other terms. -/
def told (failure : ε → δ) (answer : α → β) : Stand ε α → Stand δ β
  | .before action => .before action
  | .ended (.ok result) => .ended (.ok (answer result))
  | .ended (.failed f) => .ended (.failed (failure f))
  | .ended (.aborted message) => .ended (.aborted message)

/-- What is told in no other terms is told as it is. -/
@[simp] theorem told_id (stand : Stand ε α) : stand.told id id = stand := by
  rcases stand with _ | (_ | _ | _) <;> rfl

/-- The stand where a failure is a result. -/
def attempt : Stand ε α → Stand δ (Except ε α)
  | .before action => .before action
  | .ended (.ok result) => .ended (.ok (.ok result))
  | .ended (.failed failure) => .ended (.ok (.error failure))
  | .ended (.aborted message) => .ended (.aborted message)

/-- The stand where an abortion is a failure. -/
def sheltered (f : String → ε) : Stand ε α → Stand ε α
  | .before action => .before action
  | .ended (.ok result) => .ended (.ok result)
  | .ended (.failed failure) => .ended (.failed failure)
  | .ended (.aborted message) => .ended (.failed (f message))

end Stand

namespace Program

/-- A pure result is a program that is done with it. -/
@[simp] theorem pure_eq_done (result : α) : (pure result : Program ε α) = .done result := rfl

/-- Where a program stands. -/
def stand : Program ε α → Stand ε α
  | .done result => .ended (.ok result)
  | .fail failure => .ended (.failed failure)
  | .abort message => .ended (.aborted message)
  | .act action _ => .before action

/-- A program that has ended well is done. -/
theorem eq_done_of_stand {p : Program ε α} {result : α} (h : p.stand = .ended (.ok result)) :
    p = .done result := by
  cases p <;> cases h
  rfl

/-- A program that stands before an action is to take that. -/
theorem eq_act_of_stand {p : Program ε α} {action : Action} (h : p.stand = .before action) :
    ∃ next, p = .act action next := by
  cases p <;> cases h
  exact ⟨_, rfl⟩

/-- What is left of a program once its actions were answered in a certain way. -/
inductive Leads : Program ε α → List Deed → Program ε α → Prop where
  | refl (p : Program ε α) : Leads p [] p
  | act {action : Action} {next : action.Reply → Program ε α} {answer : action.Reply}
      {deeds : List Deed} {q : Program ε α} :
      Leads (next answer) deeds q → Leads (.act action next) (⟨action, answer⟩ :: deeds) q

/-- One more answer leads one step further. -/
theorem Leads.snoc {p : Program ε α} {deeds : List Deed} {action : Action}
    {next : action.Reply → Program ε α} (h : Leads p deeds (.act action next))
    (answer : action.Reply) : Leads p (deeds ++ [⟨action, answer⟩]) (next answer) := by
  generalize hq : Program.act action next = q at h
  induction h with
  | refl p =>
    subst hq
    exact .act (.refl _)
  | act _ ih => exact .act (ih hq)

/-- At every point of a program's course this holds of its deeds and of where it stands, if every
deed is of an expected kind. -/
def Along (expected : Deed → Prop) : (List Deed → Stand ε α → Prop) → Program ε α → Prop
  | holds, .act action next =>
    holds [] (.before action) ∧
      ∀ answer, expected ⟨action, answer⟩ →
        Along expected (fun deeds => holds (⟨action, answer⟩ :: deeds)) (next answer)
  | holds, .done result => holds [] (.ended (.ok result))
  | holds, .fail failure => holds [] (.ended (.failed failure))
  | holds, .abort message => holds [] (.ended (.aborted message))

section rules

variable {expected : Deed → Prop} {holds : List Deed → Stand ε α → Prop}

/-- Along a program that is done there is its end only. -/
@[simp] theorem along_done {result : α} :
    Along expected holds (.done result) ↔ holds [] (.ended (.ok result)) := Iff.rfl

/-- Along a program that fails there is its end only. -/
@[simp] theorem along_fail {failure : ε} :
    Along expected holds (.fail failure) ↔ holds [] (.ended (.failed failure)) := Iff.rfl

/-- Along a program that is aborted there is its end only. -/
@[simp] theorem along_abort {message : String} :
    Along expected holds (.abort message) ↔ holds [] (.ended (.aborted message)) := Iff.rfl

/-- Along a program there is its first action, and what follows each answer that is expected. -/
theorem along_act {action : Action} {next : action.Reply → Program ε α} :
    Along expected holds (.act action next) ↔
      holds [] (.before action) ∧
        ∀ answer, expected ⟨action, answer⟩ →
          Along expected (fun deeds => holds (⟨action, answer⟩ :: deeds)) (next answer) := Iff.rfl

/-- What holds along a program holds after every course of expected deeds. -/
theorem Along.leads {p q : Program ε α} {deeds : List Deed} (h : Along expected holds p)
    (hleads : Leads p deeds q) (hdeeds : ∀ d ∈ deeds, expected d) : holds deeds q.stand := by
  induction hleads generalizing holds with
  | refl p =>
    cases p with
    | act action next => exact h.1
    | _ => exact h
  | act _ ih =>
    rw [List.forall_mem_cons] at hdeeds
    exact ih (h.2 _ hdeeds.1) hdeeds.2

/-- What holds along a program may be weakened. -/
theorem Along.mono {holds' : List Deed → Stand ε α → Prop} {p : Program ε α}
    (h : Along expected holds p) (himp : ∀ deeds stand, holds deeds stand → holds' deeds stand) :
    Along expected holds' p := by
  induction p generalizing holds holds' with
  | act action next ih =>
    exact ⟨himp _ _ h.1, fun answer hanswer =>
      ih answer (h.2 answer hanswer) fun deeds stand => himp _ stand⟩
  | _ => exact himp _ _ h

/-- What holds of a second program after the deeds of a first, by where the first stands. -/
def AlongThen (expected : Deed → Prop) (rest : α → Program ε β)
    (holds : List Deed → Stand ε β → Prop) (deeds : List Deed) : Stand ε α → Prop
  | .before action => holds deeds (.before action)
  | .ended (.ok result) => Along expected (fun later => holds (deeds ++ later)) (rest result)
  | .ended (.failed failure) => holds deeds (.ended (.failed failure))
  | .ended (.aborted message) => holds deeds (.ended (.aborted message))

/-- A program that continues another is judged along the first and then along the second. -/
theorem along_bind {p : Program ε β} {rest : β → Program ε α} :
    Along expected holds (p >>= rest) ↔ Along expected (AlongThen expected rest holds) p := by
  induction p generalizing holds with
  | act action next ih =>
    simp only [bind_act, along_act, AlongThen]
    refine and_congr_right fun _ => forall_congr' fun answer => forall_congr' fun _ => ?_
    rw [ih answer]
    exact Iff.of_eq (congrArg (Along expected · (next answer)) (by
      funext deeds stand
      rcases stand with _ | (_ | _ | _) <;> rfl))
  | _ => rfl

/-- A program whose result is told in other terms is judged as it stands, told so. -/
theorem along_map {p : Program ε β} {answer : β → α} :
    Along expected holds (p >>= fun result => pure (answer result)) ↔
      Along expected (fun deeds stand => holds deeds (stand.told id answer)) p := by
  rw [along_bind]
  refine Iff.of_eq (congrArg (Along expected · p) (funext fun deeds => funext fun stand => ?_))
  rcases stand with _ | (_ | _ | _)
  · rfl
  · simp only [AlongThen, Stand.told, pure_eq_done, along_done, List.append_nil]
  · rfl
  · rfl

/-- Along a program with its failure told in other terms things are as along the program. -/
theorem along_mapFailure {p : Program δ α} {f : δ → ε} :
    Along expected holds (p.mapFailure f) ↔
      Along expected (fun deeds stand => holds deeds (stand.told f id)) p := by
  induction p generalizing holds with
  | act action next ih =>
    simp only [mapFailure, along_act, Stand.told]
    exact and_congr_right fun _ => forall_congr' fun answer => forall_congr' fun _ => ih answer
  | _ => rfl

/-- Along a program with its failure taken as a result things are as along the program. -/
theorem along_attempt {p : Program δ β} {holds : List Deed → Stand ε (Except δ β) → Prop} :
    Along expected holds p.attempt ↔
      Along expected (fun deeds stand => holds deeds stand.attempt) p := by
  induction p generalizing holds with
  | act action next ih =>
    simp only [attempt, along_act, Stand.attempt]
    exact and_congr_right fun _ => forall_congr' fun answer => forall_congr' fun _ => ih answer
  | _ => rfl

/-- Along a program with its abortions told as failures things are as along the program. -/
theorem along_sheltered {p : Program ε α} {f : String → ε} :
    Along expected holds (p.sheltered f) ↔
      Along expected (fun deeds stand => holds deeds (stand.sheltered f)) p := by
  induction p generalizing holds with
  | act action next ih =>
    simp only [sheltered, along_act, Stand.sheltered]
    exact and_congr_right fun _ => forall_congr' fun answer => forall_congr' fun _ => ih answer
  | _ => rfl

end rules

end Program

end Loopback
