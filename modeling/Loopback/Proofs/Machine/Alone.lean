import Loopback.Machine.Alone
import Loopback.Proofs.Machine.Regime

/-!
# What comes of a program that runs alone

A program that runs to its end with no other task about takes its actions one by one, and each of them
comes to an answer. A regime that it follows holds at its end.
-/

namespace Loopback

variable {ε δ α β : Type}

/-- An action taken with no other task about comes to an answer: the world's, or that of a wait which
lasted until its deadline. -/
inductive Action.Alone (task : Nat) (w : World) (action : Action) : action.Reply → World → Prop where
  | replied {answer : action.Reply} {w' : World} {call : Option Call}
      (hrun : action.run task w = .reply answer w' call) : Alone task w action answer w'
  | waited {otherwise : action.Reply} {deadline : Duration.Instant}
      (hrun : action.run task w = .wait otherwise) (hdeadline : action.deadline? = some deadline) :
      Alone task w action otherwise { w with now := max w.now deadline }

/-- An action without a deadline is answered by the world. -/
theorem Action.Alone.reply {task : Nat} {w w' : World} {action : Action} {answer : action.Reply}
    (h : action.Alone task w answer w') (hdeadline : action.deadline? = none) :
    ∃ call, action.run task w = .reply answer w' call := by
  cases h with
  | replied hrun => exact ⟨_, hrun⟩
  | waited hrun hsome =>
    rw [hdeadline] at hsome
    cases hsome

namespace Program

variable {task : Nat} {w w' : World} {result : α}

/-- A program ends alone when it does so after what its first action comes to. -/
theorem alone_act {action : Action} {next : action.Reply → Program ε α} {outcome : Outcome ε α} :
    (Program.act action next).alone task w = .ended outcome w' ↔
      ∃ answer w₁, action.Alone task w answer w₁ ∧ (next answer).alone task w₁ = .ended outcome w' := by
  constructor
  · intro h
    simp only [alone] at h
    split at h
    next answer w₁ call hrun => exact ⟨answer, w₁, .replied hrun, h⟩
    next otherwise hrun =>
      split at h
      next deadline hdeadline => exact ⟨otherwise, _, .waited hrun hdeadline, h⟩
      next => cases h
    next => cases h
  · rintro ⟨answer, w₁, halone, h⟩
    simp only [alone]
    cases halone with
    | replied hrun =>
      rw [hrun]
      exact h
    | waited hrun hdeadline =>
      rw [hrun, hdeadline]
      exact h

/-- What follows an action without a deadline goes on from the world's answer. -/
theorem of_alone_perform_bind {action : Action} {rest : action.Reply → Program ε α}
    {outcome : Outcome ε α} (h : (Program.perform action >>= rest).alone task w = .ended outcome w')
    (hdeadline : action.deadline? = none) :
    ∃ answer w₁ call, action.run task w = .reply answer w₁ call ∧
      (rest answer).alone task w₁ = .ended outcome w' := by
  obtain ⟨answer, w₁, halone, hrest⟩ := alone_act.1 h
  obtain ⟨call, hrun⟩ := halone.reply hdeadline
  exact ⟨answer, w₁, call, hrun, hrest⟩

/-- A program succeeds alone after another just if that one succeeds, and it does so in what is left. -/
theorem alone_bind {p : Program ε β} {rest : β → Program ε α} :
    (p >>= rest).alone task w = .ended (.ok result) w' ↔
      ∃ first w₁, p.alone task w = .ended (.ok first) w₁ ∧
        (rest first).alone task w₁ = .ended (.ok result) w' := by
  constructor
  · intro h
    induction p generalizing w with
    | done first => exact ⟨first, w, rfl, h⟩
    | act action next ih =>
      obtain ⟨answer, w₁, halone, hnext⟩ := alone_act.1 h
      obtain ⟨first, w₂, hfirst, hrest⟩ := ih answer hnext
      exact ⟨first, w₂, alone_act.2 ⟨answer, w₁, halone, hfirst⟩, hrest⟩
    | _ => cases h
  · rintro ⟨first, w₁, hfirst, hrest⟩
    induction p generalizing w with
    | done =>
      cases hfirst
      exact hrest
    | act action next ih =>
      obtain ⟨answer, w₂, halone, hnext⟩ := alone_act.1 hfirst
      exact alone_act.2 ⟨answer, w₂, halone, ih answer hnext⟩
    | _ => cases hfirst

/-- A check that succeeds leaves the world as it is. -/
theorem of_alone_ofExcept {check : Except ε α}
    (h : (ofExcept check).alone task w = .ended (.ok result) w') : check = .ok result ∧ w' = w := by
  cases check <;> cases h
  exact ⟨rfl, rfl⟩

/-- Whether a program succeeds alone does not depend on the terms in which its failure is told. -/
theorem alone_mapFailure {p : Program ε α} {f : ε → δ} :
    (p.mapFailure f).alone task w = .ended (.ok result) w' ↔ p.alone task w = .ended (.ok result) w' := by
  induction p generalizing w with
  | act action next ih =>
    have hnext (answer : action.Reply) (w₁ : World) := ih answer (w := w₁)
    simp only [mapFailure, alone_act, hnext]
  | _ => simp [mapFailure, alone]

/-- Whether a program succeeds alone does not depend on what its abortion is told as. -/
theorem alone_sheltered {p : Program ε α} {f : String → ε} :
    (p.sheltered f).alone task w = .ended (.ok result) w' ↔ p.alone task w = .ended (.ok result) w' := by
  induction p generalizing w with
  | act action next ih =>
    have hnext (answer : action.Reply) (w₁ : World) := ih answer (w := w₁)
    simp only [sheltered, alone_act, hnext]
  | _ => simp [sheltered, alone]

end Program

/-- Where a program follows a regime alone, it holds at its end. -/
theorem Regime.Kept.alone {r : Regime} (hkept : r.Kept) {p : Program ε α} (hfollows : r.Follows p)
    {task : Nat} {w w' : World} {outcome : Outcome ε α} (hholds : r.holds w)
    (h : p.alone task w = .ended outcome w') : r.holds w' := by
  induction p generalizing w with
  | act action next ih =>
    have hallowed := hfollows.1 action rfl
    have hnext : ∀ answer, r.expects ⟨action, answer⟩ → r.Follows (next answer) := hfollows.2
    obtain ⟨answer, w₁, halone, hrest⟩ := Program.alone_act.1 h
    cases halone with
    | replied hrun =>
      obtain ⟨hholds', hexpects⟩ := hkept.reply hholds hallowed hrun
      exact ih answer (hnext answer hexpects) hholds' hrest
    | @waited deadline hrun hdeadline =>
      have hexpects := hkept.wait hholds hallowed hrun (by simp [hdeadline])
      have hlater := hkept.tick (max w.now deadline - w.now) hholds
      rw [Nat.add_sub_cancel' (Nat.le_max_left ..)] at hlater
      exact ih answer (hnext answer hexpects) hlater hrest
  | _ =>
    cases h
    exact hholds

end Loopback
