import Loopback.Proofs.Machine.Regime

/-!
# Calls made in turn

A task that makes calls one after another goes on when one of them fails, and answers all their
results in the end. At each point of its course some calls have finished, each with its own deeds
and its own result, and the deeds that are left are those of the call being made.
-/

namespace Loopback

variable {ε δ α β κ : Type}

/-- A call that has finished: what it did and its result. -/
structure Finished (κ ε α : Type) where
  call : κ
  deeds : List Deed
  result : Except ε α

namespace Program

/-- Make calls one after another, whether they fail or not, and answer their results. -/
def series : List (Program ε α) → Program δ (List (Except ε α))
  | [] => .done []
  | call :: rest => do
    let result ← call.attempt
    let results ← series rest
    pure (result :: results)

/-- Calls that follow a regime follow it one after another. -/
theorem follows_series {r : Regime} {calls : List (Program ε α)} (h : ∀ call ∈ calls, r.Follows call) :
    r.Follows (series calls : Program δ (List (Except ε α))) := by
  induction calls with
  | nil => exact nofun
  | cons call rest ih =>
    obtain ⟨hcall, hrest⟩ := List.forall_mem_cons.1 h
    exact hcall.attempt.bind fun result => (ih hrest).bind fun results => nofun

/-- Certain deeds leave a program that continues another in the midst of the first, which is not
done, or they are divided between the two. -/
theorem Leads.of_bind {p : Program ε α} {rest : α → Program ε β} {deeds : List Deed}
    {q : Program ε β} (h : (p >>= rest).Leads deeds q) :
    (∃ p', p.Leads deeds p' ∧ (∀ result, p' ≠ .done result) ∧ q = (p' >>= rest)) ∨
      ∃ first later result, p.Leads first (.done result) ∧ deeds = first ++ later ∧
        (rest result).Leads later q := by
  induction p generalizing deeds with
  | done result => exact .inr ⟨[], deeds, result, .refl _, rfl, h⟩
  | fail failure =>
    cases h
    exact .inl ⟨.fail failure, .refl _, by simp, rfl⟩
  | abort message =>
    cases h
    exact .inl ⟨.abort message, .refl _, by simp, rfl⟩
  | act action next ih =>
    cases h with
    | refl => exact .inl ⟨.act action next, .refl _, by simp, rfl⟩
    | @act _ _ answer deeds _ h =>
      rcases ih answer h with ⟨p', hleads, hdone, rfl⟩ | ⟨first, later, result, hleads, rfl, hlater⟩
      · exact .inl ⟨p', .act hleads, hdone, rfl⟩
      · exact .inr ⟨_, later, result, .act hleads, rfl, hlater⟩

/-- What deeds leave of an attempt is an attempt at what they leave. -/
theorem Leads.of_attempt {p : Program ε α} {deeds : List Deed} {q : Program δ (Except ε α)}
    (h : p.attempt.Leads deeds q) : ∃ p', p.Leads deeds p' ∧ q = p'.attempt := by
  induction p generalizing deeds with
  | act action next ih =>
    cases h with
    | refl => exact ⟨.act action next, .refl _, rfl⟩
    | @act _ _ answer deeds _ h =>
      obtain ⟨p', hleads, rfl⟩ := ih answer h
      exact ⟨p', .act hleads, rfl⟩
  | done result => cases h; exact ⟨.done result, .refl _, rfl⟩
  | fail failure => cases h; exact ⟨.fail failure, .refl _, rfl⟩
  | abort message => cases h; exact ⟨.abort message, .refl _, rfl⟩

/-- A program that is done once its failure is taken as a result is a check. -/
theorem attempt_eq_done {p : Program ε α} {result : Except ε α}
    (h : (.done result : Program δ (Except ε α)) = p.attempt) : p = .ofExcept result := by
  cases p <;> cases h <;> rfl

end Program

/-- How far calls made in turn have come: which have finished, and what the one being made has done
so far. -/
inductive InTurn (program : κ → Program ε α) :
    List κ → List Deed → List (Finished κ ε α) → List Deed → Prop where
  | idle : InTurn program [] [] [] []
  | midst {call : κ} {rest : List κ} {deeds : List Deed} {q : Program ε α} :
      (program call).Leads deeds q → InTurn program (call :: rest) deeds [] deeds
  | next {call : κ} {rest : List κ} {deeds later current : List Deed} {result : Except ε α}
      {finished : List (Finished κ ε α)} :
      (program call).Leads deeds (.ofExcept result) → InTurn program rest later finished current →
      InTurn program (call :: rest) (deeds ++ later) (⟨call, deeds, result⟩ :: finished) current

namespace InTurn

variable {program : κ → Program ε α}

/-- A course of calls made in turn is divided among them, and what is answered in the end are their
results. -/
theorem of_series {calls : List κ} {deeds : List Deed} {q : Program δ (List (Except ε α))}
    (h : (Program.series (calls.map program)).Leads deeds q) :
    ∃ finished current, InTurn program calls deeds finished current ∧
      ∀ results, q = .done results →
        finished.map (·.call) = calls ∧ finished.map (·.result) = results := by
  induction calls generalizing deeds q with
  | nil =>
    cases h
    refine ⟨[], [], .idle, fun results hq => ?_⟩
    cases hq
    exact ⟨rfl, rfl⟩
  | cons call rest ih =>
    -- The course ends within the first call or goes on to the others.
    rcases Program.Leads.of_bind h with ⟨p', hmidst, hdone, rfl⟩ |
      ⟨first, later, result, hfirst, rfl, hlater⟩
    · obtain ⟨p, hleads, rfl⟩ := hmidst.of_attempt
      refine ⟨[], deeds, .midst hleads, fun results hq => ?_⟩
      cases p with
      | done result => exact absurd rfl (hdone (.ok result))
      | fail failure => exact absurd rfl (hdone (.error failure))
      | _ => cases hq
    · obtain ⟨p, hleads, hresult⟩ := hfirst.of_attempt
      obtain rfl := Program.attempt_eq_done hresult
      rcases Program.Leads.of_bind hlater with ⟨p', hrest, hdone, rfl⟩ |
        ⟨others, none, results, hrest, rfl, hend⟩
      · obtain ⟨finished, current, hturn, -⟩ := ih hrest
        refine ⟨_, current, .next hleads hturn, fun results hq => ?_⟩
        cases p' with
        | done result => exact absurd rfl (hdone result)
        | _ => cases hq
      · cases hend
        obtain ⟨finished, current, hturn, hresults⟩ := ih hrest
        obtain ⟨hcalls, hresults⟩ := hresults results rfl
        refine ⟨_, current, .next hleads (by simpa using hturn), fun all hq => ?_⟩
        cases hq
        simp [hcalls, hresults]

/-- What finished calls did and what the present one does is all that was done. -/
theorem deeds_eq {calls : List κ} {deeds current : List Deed} {finished : List (Finished κ ε α)}
    (h : InTurn program calls deeds finished current) :
    deeds = finished.flatMap (·.deeds) ++ current := by
  induction h with
  | idle => rfl
  | midst => rfl
  | next _ _ ih => simp [ih]

/-- What is gathered from all deeds is gathered from those of finished calls and from the others. -/
theorem flatMap_deeds {τ : Type} {calls : List κ} {deeds current : List Deed}
    {finished : List (Finished κ ε α)} (h : InTurn program calls deeds finished current)
    (gather : Deed → List τ) :
    deeds.flatMap gather = (finished.flatMap fun f => f.deeds.flatMap gather) ++ current.flatMap gather := by
  rw [h.deeds_eq, List.flatMap_append, List.flatMap_assoc]

/-- What was done in a call that has finished was done. -/
theorem mem_deeds {calls : List κ} {deeds current : List Deed} {finished : List (Finished κ ε α)}
    (h : InTurn program calls deeds finished current) {f : Finished κ ε α} (hf : f ∈ finished)
    {deed : Deed} (hdeed : deed ∈ f.deeds) : deed ∈ deeds := by
  rw [h.deeds_eq]
  exact List.mem_append_left _ (List.mem_flatMap.2 ⟨f, hf, hdeed⟩)

/-- What was done in the call under way was done. -/
theorem mem_deeds_of_current {calls : List κ} {deeds current : List Deed}
    {finished : List (Finished κ ε α)} (h : InTurn program calls deeds finished current) {deed : Deed}
    (hdeed : deed ∈ current) : deed ∈ deeds := by
  rw [h.deeds_eq]
  exact List.mem_append_right _ hdeed

/-- The calls that have not finished begin with the one that is being made. -/
theorem calls_eq {calls : List κ} {deeds current : List Deed} {finished : List (Finished κ ε α)}
    (h : InTurn program calls deeds finished current) :
    (calls = finished.map (·.call) ∧ current = []) ∨
      ∃ call rest q, calls = finished.map (·.call) ++ call :: rest ∧ (program call).Leads current q := by
  induction h with
  | idle => exact .inl ⟨rfl, rfl⟩
  | midst hleads => exact .inr ⟨_, _, _, rfl, hleads⟩
  | next _ _ ih =>
    rcases ih with ⟨hcalls, hcurrent⟩ | ⟨call, rest, q, hcalls, hleads⟩
    · exact .inl ⟨congrArg (_ :: ·) hcalls, hcurrent⟩
    · exact .inr ⟨call, rest, q, congrArg (_ :: ·) hcalls, hleads⟩

/-- A finished call ended as its program does. -/
theorem leads {calls : List κ} {deeds current : List Deed} {finished : List (Finished κ ε α)}
    (h : InTurn program calls deeds finished current) :
    ∀ f ∈ finished, (program f.call).Leads f.deeds (.ofExcept f.result) := by
  induction h with
  | idle => simp
  | midst => simp
  | next hleads _ ih => exact List.forall_mem_cons.2 ⟨hleads, ih⟩

end InTurn

namespace Machine

/-- A task that makes calls in turn has come so far with them, and where it has ended its results are
theirs. -/
theorem Run.inTurn {start m : Machine δ (List (Except ε α))} {moves : List Move} {turns : List Turn}
    (hrun : Run start moves turns m) {task : Nat} {program : κ → Program ε α} {calls : List κ}
    (htask : start.programOf? task = some (Program.series (calls.map program))) :
    ∃ finished current, InTurn program calls (deedsOf task turns) finished current ∧
      ∀ results, m.outcomeOf? task = some (.ok results) →
        finished.map (·.call) = calls ∧ finished.map (·.result) = results := by
  obtain ⟨q, hq, hleads⟩ := hrun.leads htask
  obtain ⟨finished, current, hturn, hdone⟩ := InTurn.of_series hleads
  refine ⟨finished, current, hturn, ?_⟩
  intro results houtcome
  exact hdone results (Program.eq_done_of_stand (stand_of_outcomeOf? hq houtcome))

end Machine

end Loopback
