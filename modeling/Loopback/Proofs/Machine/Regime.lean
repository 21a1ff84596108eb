import Loopback.Proofs.Machine.Run

/-!
# Regimes

Tasks that keep to certain actions keep the world in a certain condition, and the world then gives
answers of a certain kind. Each side is promised only what the other side brings about, yet together
they hold in every run: the actions allowed to a task are judged along its program alone, and the
answers are judged in one world alone.
-/

namespace Loopback

variable {ε δ α β : Type}

/-- What holds of a world, which actions are allowed in it, and which answers they get. -/
structure Regime where
  holds : World → Prop
  allows : Action → Prop
  expects : Deed → Prop

namespace Regime

/-- Allowed actions keep the condition of the world and get the answers that are expected, whether
they are answered or given up at a deadline. No passing of time upsets that condition. -/
structure Kept (r : Regime) : Prop where
  reply {task : Nat} {w w' : World} {action : Action} {answer : action.Reply} {call : Option Call} :
    r.holds w → r.allows action → action.run task w = .reply answer w' call →
      r.holds w' ∧ r.expects ⟨action, answer⟩
  wait {task : Nat} {w : World} {action : Action} {otherwise : action.Reply} :
    r.holds w → r.allows action → action.run task w = .wait otherwise →
      action.deadline? ≠ none → r.expects ⟨action, otherwise⟩
  tick {w : World} (nanos : Nat) : r.holds w → r.holds { w with now := w.now + nanos }

/-- A program that takes only allowed actions, so long as it gets the answers that are expected. -/
def Follows (r : Regime) (p : Program ε α) : Prop :=
  p.Along r.expects fun _ stand => ∀ action, stand = .before action → r.allows action

/-- An allowed action may be followed by what follows the regime after each expected answer. -/
theorem follows_act {r : Regime} {action : Action} {next : action.Reply → Program ε α}
    (hallowed : r.allows action) (hnext : ∀ answer, r.expects ⟨action, answer⟩ → r.Follows (next answer)) :
    r.Follows (.act action next) := by
  refine ⟨?_, hnext⟩
  rintro _ ⟨⟩
  exact hallowed

/-- What follows a regime is followed by what does so for each result. -/
theorem Follows.bind {r : Regime} {p : Program ε α} {rest : α → Program ε β} (hp : r.Follows p)
    (hrest : ∀ result, r.Follows (rest result)) : r.Follows (p >>= rest) := by
  refine Program.along_bind.2 (Program.Along.mono hp fun deeds stand hallowed => ?_)
  match stand with
  | .before action => exact fun _ h => hallowed _ (by cases h; rfl)
  | .ended (.ok result) => exact hrest result
  | .ended (.failed failure) => exact nofun
  | .ended (.aborted message) => exact nofun

/-- What follows a regime does so with its failure taken as a result. -/
theorem Follows.attempt {r : Regime} {p : Program ε α} (hp : r.Follows p) :
    r.Follows (p.attempt : Program δ (Except ε α)) := by
  refine Program.along_attempt.2 (Program.Along.mono hp fun deeds stand hallowed => ?_)
  match stand with
  | .before action => exact fun _ h => hallowed _ (by cases h; rfl)
  | .ended (.ok result) => exact nofun
  | .ended (.failed failure) => exact nofun
  | .ended (.aborted message) => exact nofun

end Regime

namespace Machine

/-- What a task is about to do is allowed, if the answers so far were as expected. -/
theorem Run.allows {r : Regime} {world : World} {programs : List (Program ε α)} {m : Machine ε α}
    {moves : List Move} {turns : List Turn} (hrun : Run (ofPrograms world programs) moves turns m)
    (hprograms : ∀ p ∈ programs, r.Follows p) (hturns : ∀ turn ∈ turns, r.expects turn.deed)
    {task : Nat} {action : Action} {next : action.Reply → Program ε α}
    (h : m.programOf? task = some (.act action next)) : r.allows action := by
  obtain ⟨p, hp, hleads⟩ := hrun.origin h
  exact (hprograms p (List.mem_of_getElem? hp)).leads hleads (forall_deedsOf hturns task) action rfl

/-- Where every program follows a regime, it holds throughout every run. -/
theorem Run.regime {r : Regime} (hkept : r.Kept) {world : World} {programs : List (Program ε α)}
    {m : Machine ε α} {moves : List Move} {turns : List Turn}
    (hrun : Run (ofPrograms world programs) moves turns m) (hworld : r.holds world)
    (hprograms : ∀ p ∈ programs, r.Follows p) :
    r.holds m.world ∧ ∀ turn ∈ turns, r.allows turn.deed.action ∧ r.expects turn.deed := by
  induction hrun with
  | start => exact ⟨hworld, by simp⟩
  | @step moves turns m m' move hrun hstep ih =>
    obtain ⟨hholds, hturns⟩ := ih
    have hallowed : ∀ {task action next}, m.programOf? task = some (.act action next) →
        r.allows action := hrun.allows hprograms fun turn hturn => (hturns turn hturn).2
    have hchange := change_of_step hstep
    generalize m.turn? move = turn? at hchange
    -- The world changes by answers and by time, and a regime says of each that it is kept.
    cases hchange with
    | @answered task action next answer world call htask hrun =>
      have hprogram : m.programOf? task = some (.act action next) := by
        rcases htask with htask | htask <;> exact programOf?_of_getElem? htask
      obtain ⟨hholds', hexpects⟩ := hkept.reply hholds (hallowed hprogram) hrun
      refine ⟨hholds', fun turn hturn => ?_⟩
      rcases List.mem_append.1 hturn with hturn | hturn
      · exact hturns turn hturn
      · obtain rfl := Option.some.inj (Option.mem_toList.1 hturn)
        exact ⟨hallowed hprogram, hexpects⟩
    | @gaveUp task action next otherwise htask hwait =>
      have hallows := hallowed (programOf?_of_getElem? htask)
      have hdeadline := (reachable_iff_run.2 ⟨_, _, hrun⟩).deadline_of_lapsed
        (List.mem_of_getElem? htask)
      refine ⟨hholds, fun turn hturn => ?_⟩
      rcases List.mem_append.1 hturn with hturn | hturn
      · exact hturns turn hturn
      · obtain rfl := Option.some.inj (Option.mem_toList.1 hturn)
        exact ⟨hallows, hkept.wait hholds hallows hwait hdeadline⟩
    | ticked => exact ⟨hkept.tick _ hholds, by simpa using hturns⟩
    | _ => exact ⟨hholds, by simpa using hturns⟩

end Machine

end Loopback
