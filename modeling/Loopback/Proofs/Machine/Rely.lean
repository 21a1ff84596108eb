import Loopback.Proofs.Machine.Rule

/-!
# Relying on the others

A task that shares the world still brings something about, if the others keep to what it relies on.
What it relies on is how they may change the world; what it can count on between its own actions is
only what no such change upsets. A program is judged under that alone, and then a run keeps the word.
-/

namespace Loopback

variable {ε δ α β : Type}

/-- How others may change the world. They may do so many times, or not at all, and time passes. -/
structure Rely where
  within : World → World → Prop
  refl (w : World) : within w w
  trans {w w' w'' : World} : within w w' → within w' w'' → within w w''
  tick (w : World) (nanos : Nat) : within w { w with now := w.now + nanos }

namespace Rely

/-- What no change by others upsets. -/
def Spares (r : Rely) (holds : World → Prop) : Prop :=
  ∀ ⦃w w' : World⦄, r.within w w' → holds w → holds w'

/-- Two things that others spare are spared together. -/
theorem Spares.and {r : Rely} {holds holds' : World → Prop} (h : r.Spares holds)
    (h' : r.Spares holds') : r.Spares fun w => holds w ∧ holds' w :=
  fun _ _ hwithin hboth => ⟨h hwithin hboth.1, h' hwithin hboth.2⟩

end Rely

namespace Program

/-- However it is answered, and whatever others do in between, a program that begins in a world ends
in one of a certain kind. -/
def Secures (r : Rely) (post : World → Prop) : Program ε α → World → Prop
  | .act action next, w =>
    ∀ task w₁ answer w₂, r.within w w₁ → action.Comes task w₁ answer w₂ →
      Secures r post (next answer) w₂
  | .done _, w => ∀ w', r.within w w' → post w'
  | .fail _, w => ∀ w', r.within w w' → post w'
  | .abort _, w => ∀ w', r.within w w' → post w'

section rules

variable {r : Rely} {holds post : World → Prop} {w : World}

/-- What a program secures it still secures after others have acted. -/
theorem Secures.within {p : Program ε α} {w' : World} (h : p.Secures r post w)
    (hwithin : r.within w w') : p.Secures r post w' := by
  cases p with
  | act action next => exact fun _ _ _ _ hlater hcomes => h _ _ _ _ (r.trans hwithin hlater) hcomes
  | _ => exact fun _ hlater => h _ (r.trans hwithin hlater)

/-- What a program secures may be told more weakly. -/
theorem Secures.mono {post' : World → Prop} {p : Program ε α} (h : p.Secures r post w)
    (himp : ∀ w, post w → post' w) : p.Secures r post' w := by
  induction p generalizing w with
  | act action next ih => exact fun _ _ answer _ hwithin hcomes => ih answer (h _ _ _ _ hwithin hcomes)
  | _ => exact fun _ hwithin => himp _ (h _ hwithin)

/-- A program that has ended secured what it was to. -/
theorem Secures.ended {p : Program ε α} {outcome : Outcome ε α} (h : p.Secures r post w)
    (hp : p.stand = .ended outcome) : post w := by
  cases p with
  | act => cases hp
  | _ => exact h _ (r.refl w)

/-- A result secures what holds and others spare. -/
theorem secures_done {result : α} (hspares : r.Spares post) (hw : post w) :
    (.done result : Program ε α).Secures r post w :=
  fun _ hwithin => hspares hwithin hw

/-- A failure secures what holds and others spare. -/
theorem secures_fail {failure : ε} (hspares : r.Spares post) (hw : post w) :
    (.fail failure : Program ε α).Secures r post w :=
  fun _ hwithin => hspares hwithin hw

/-- An abortion secures what holds and others spare. -/
theorem secures_abort {message : String} (hspares : r.Spares post) (hw : post w) :
    (.abort message : Program ε α).Secures r post w :=
  fun _ hwithin => hspares hwithin hw

/-- An action comes to its answer in a world of which all that others spare still holds. -/
theorem secures_act {action : Action} {next : action.Reply → Program ε α} (hspares : r.Spares holds)
    (hw : holds w)
    (hnext : ∀ {task : Nat} {w₁ : World} {answer : action.Reply} {w₂ : World}, holds w₁ →
      action.Comes task w₁ answer w₂ → (next answer).Secures r post w₂) :
    (Program.act action next).Secures r post w :=
  fun _ _ _ _ hwithin hcomes => hnext (hspares hwithin hw) hcomes

/-- What follows a check is begun only if that succeeds. -/
theorem secures_ofExcept_bind {check : Except ε α} {rest : α → Program ε β} (hspares : r.Spares post)
    (hfailed : ∀ failure, check = .error failure → post w)
    (hrest : ∀ result, check = .ok result → (rest result).Secures r post w) :
    (ofExcept check >>= rest).Secures r post w := by
  cases check with
  | ok result => exact hrest result rfl
  | error failure => exact secures_fail hspares (hfailed failure rfl)

/-- A program that keeps to what others keep to secures whatever they spare. -/
theorem secures_of_obeys {allowed : Action → Prop} {seen : List Deed} {p : Program ε α}
    (hobeys : p.Obeys (.always allowed) seen)
    (hallowed : ∀ {task : Nat} {w w' : World} {action : Action} {answer : action.Reply},
      allowed action → action.Comes task w answer w' → r.within w w')
    (hspares : r.Spares post) (hw : post w) : p.Secures r post w := by
  induction p generalizing seen w with
  | act action next ih =>
    obtain ⟨haction, hnext⟩ := obeys_act.1 hobeys
    refine secures_act hspares hw fun {_ _ answer _} hholds hcomes => ?_
    exact ih answer (hnext answer) (hspares (hallowed haction hcomes) hholds)
  | done => exact secures_done hspares hw
  | fail => exact secures_fail hspares hw
  | abort => exact secures_abort hspares hw

/-- A program goes on where another ended. -/
theorem Secures.bind {mid : World → Prop} {p : Program ε α} {rest : α → Program ε β}
    (hp : p.Secures r mid w) (hspares : r.Spares post) (hended : ∀ w, mid w → post w)
    (hrest : ∀ result w, mid w → (rest result).Secures r post w) :
    (p >>= rest).Secures r post w := by
  induction p generalizing w with
  | act action next ih => exact fun _ _ answer _ hwithin hcomes => ih answer (hp _ _ _ _ hwithin hcomes)
  | done result => exact hrest result w (hp _ (r.refl w))
  | fail => exact secures_fail hspares (hended w (hp _ (r.refl w)))
  | abort => exact secures_abort hspares (hended w (hp _ (r.refl w)))

/-- A program secures as much with its failure told in other terms. -/
theorem Secures.mapFailure {p : Program δ α} (h : p.Secures r post w) (f : δ → ε) :
    (p.mapFailure f).Secures r post w := by
  induction p generalizing w with
  | act action next ih => exact fun _ _ answer _ hwithin hcomes => ih answer (h _ _ _ _ hwithin hcomes)
  | _ => exact h

/-- A program secures as much with its abortions told as failures. -/
theorem Secures.sheltered {p : Program ε α} (h : p.Secures r post w) (f : String → ε) :
    (p.sheltered f).Secures r post w := by
  induction p generalizing w with
  | act action next ih => exact fun _ _ answer _ hwithin hcomes => ih answer (h _ _ _ _ hwithin hcomes)
  | _ => exact h

/-- An action at the end of a program that others could take as well undoes nothing. -/
theorem Secures.thenAlways {p : Program ε α} {last : Action} (h : p.Secures r post w)
    (hlast : ∀ {task : Nat} {w w' : World} {answer : last.Reply},
      last.Comes task w answer w' → r.within w w') :
    (p.thenAlways last).Secures r post w := by
  induction p generalizing w with
  | act action next ih => exact fun _ _ answer _ hwithin hcomes => ih answer (h _ _ _ _ hwithin hcomes)
  | _ =>
    intro _ _ _ _ hwithin hcomes _ hlater
    exact h _ (r.trans hwithin (r.trans (hlast hcomes) hlater))

end rules

end Program

namespace Machine

/-- A task secures at the end of a run what it secured at its start, if the turns of the others keep to
what it relies on. -/
theorem Run.secures {start m : Machine ε α} {moves : List Move} {turns : List Turn}
    (hrun : Run start moves turns m) {r : Rely} {post : World → Prop} {task : Nat} {p : Program ε α}
    (hp : start.programOf? task = some p) (hsecures : p.Secures r post start.world)
    (hothers : ∀ turn ∈ turns, turn.task ≠ task → r.within turn.before turn.after) :
    ∃ q, m.programOf? task = some q ∧ q.Secures r post m.world := by
  refine hrun.carries hp (·.Secures r post) hsecures ?_ ?_ ?_
  · exact fun nanos hsecures => hsecures.within (r.tick _ nanos)
  · exact fun hcomes hsecures => hsecures _ _ _ _ (r.refl _) hcomes
  · exact fun turn hturn hne q hsecures => hsecures.within (hothers turn hturn hne)

/-- Once it has ended, what a task secured holds. -/
theorem Run.secured {start m : Machine ε α} {moves : List Move} {turns : List Turn}
    (hrun : Run start moves turns m) {r : Rely} {post : World → Prop} {task : Nat} {p : Program ε α}
    (hp : start.programOf? task = some p) (hsecures : p.Secures r post start.world)
    (hothers : ∀ turn ∈ turns, turn.task ≠ task → r.within turn.before turn.after)
    {outcome : Outcome ε α} (hended : m.outcomeOf? task = some outcome) : post m.world := by
  obtain ⟨q, hq, hsecured⟩ := hrun.secures hp hsecures hothers
  exact hsecured.ended (stand_of_outcomeOf? hq hended)

end Machine

end Loopback
