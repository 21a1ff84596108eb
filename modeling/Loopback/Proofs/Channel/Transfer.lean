import Loopback.Proofs.Channel.Busy
import Loopback.Proofs.Queue.Conservation
import Loopback.Work.Operation

/-!
# What a call transfers

A call on a channel in use is judged by what it has put into the queue and taken out of it whenever
it stands before an action or has ended, and by how many actions it takes at most. The rules follow
the ways in which calls are made, and put and taken elements add up from part to part.
-/

namespace Loopback

variable {ε δ α β : Type}

/-- What is said of a call: of what it put, of what it took, and of where it stands. -/
abbrev Account (ε α : Type) := List Item → List Item → Stand ε α → Prop

namespace Program

/-- On a channel in use the account of a call holds all along, and it takes so many actions at
most. -/
def Transfers (session : Session) (settings : PortSettings) (bound : Nat) (holds : Account ε α)
    (p : Program ε α) : Prop :=
  p.Along (Channel.busy session settings).expects fun deeds stand =>
    deeds.length ≤ bound ∧
      (∀ action, stand = .before action → (Channel.busy session settings).allows action) ∧
      holds (deeds.flatMap (Deed.put session)) (deeds.flatMap (Deed.popped session)) stand

section rules

variable {session : Session} {settings : PortSettings} {bound later : Nat} {holds : Account ε α}

/-- A call with an account follows what the channel in use lets it be answered. -/
theorem Transfers.follows {p : Program ε α} (h : p.Transfers session settings bound holds) :
    (Channel.busy session settings).Follows p :=
  h.mono fun _ _ h => h.2.1

/-- After a course of expected deeds, the account holds and the bound is kept. -/
theorem Transfers.leads {p q : Program ε α} (h : p.Transfers session settings bound holds)
    {deeds : List Deed} (hleads : p.Leads deeds q)
    (hdeeds : ∀ d ∈ deeds, (Channel.busy session settings).expects d) :
    deeds.length ≤ bound ∧
      holds (deeds.flatMap (Deed.put session)) (deeds.flatMap (Deed.popped session)) q.stand := by
  obtain ⟨hlength, -, hholds⟩ := Along.leads h hleads hdeeds
  exact ⟨hlength, hholds⟩

/-- The account still holds after one more deed that is expected. -/
theorem Transfers.leads_act {p : Program ε α} (h : p.Transfers session settings bound holds) {deeds : List Deed}
    {action : Action} {next : action.Reply → Program ε α} (hleads : p.Leads deeds (.act action next))
    (hdeeds : ∀ d ∈ deeds, (Channel.busy session settings).expects d) (answer : action.Reply)
    (hanswer : (Channel.busy session settings).expects ⟨action, answer⟩) :
    holds (deeds.flatMap (Deed.put session) ++ Deed.put session ⟨action, answer⟩)
      (deeds.flatMap (Deed.popped session) ++ Deed.popped session ⟨action, answer⟩) (next answer).stand := by
  have hmore : ∀ d ∈ deeds ++ [⟨action, answer⟩], (Channel.busy session settings).expects d :=
    List.forall_mem_append.2 ⟨hdeeds, List.forall_mem_singleton.2 hanswer⟩
  obtain ⟨-, hholds⟩ := h.leads (hleads.snoc answer) hmore
  rwa [List.flatMap_append, List.flatMap_append, List.flatMap_singleton, List.flatMap_singleton] at hholds

/-- An account may be told more weakly, and under a greater bound. -/
theorem Transfers.mono {holds' : Account ε α} {bound' : Nat} {p : Program ε α}
    (h : p.Transfers session settings bound holds) (hbound : bound ≤ bound')
    (himp : ∀ put popped stand, holds put popped stand → holds' put popped stand) :
    p.Transfers session settings bound' holds' :=
  Along.mono h fun _ _ ⟨hlength, hallowed, hholds⟩ =>
    ⟨Nat.le_trans hlength hbound, hallowed, himp _ _ _ hholds⟩

/-- A result puts nothing and takes nothing. -/
theorem transfers_done {result : α} (h : holds [] [] (.ended (.ok result))) :
    (Program.done result).Transfers session settings bound holds :=
  ⟨Nat.zero_le _, nofun, h⟩

/-- A failure puts nothing and takes nothing. -/
theorem transfers_fail {failure : ε} (h : holds [] [] (.ended (.failed failure))) :
    (Program.fail failure).Transfers session settings bound holds :=
  ⟨Nat.zero_le _, nofun, h⟩

/-- An abortion puts nothing and takes nothing. -/
theorem transfers_abort {message : String} (h : holds [] [] (.ended (.aborted message))) :
    (Program.abort message).Transfers session settings bound holds :=
  ⟨Nat.zero_le _, nofun, h⟩

/-- An action is judged by the account before it and after each expected answer to it. -/
theorem transfers_act {action : Action} {next : action.Reply → Program ε α}
    (hallowed : (Channel.busy session settings).allows action)
    (hbefore : holds [] [] (.before action))
    (hnext : ∀ answer, (Channel.busy session settings).expects ⟨action, answer⟩ →
      (next answer).Transfers session settings bound fun put popped =>
        holds (Deed.put session ⟨action, answer⟩ ++ put)
          (Deed.popped session ⟨action, answer⟩ ++ popped)) :
    (Program.act action next).Transfers session settings (bound + 1) holds := by
  refine along_act.2 ⟨⟨Nat.zero_le _, ?_, hbefore⟩, fun answer hanswer => ?_⟩
  · rintro _ ⟨⟩
    exact hallowed
  · refine Along.mono (hnext answer hanswer) fun deeds stand ⟨hlength, hallowed, hholds⟩ => ?_
    exact ⟨Nat.succ_le_succ hlength, hallowed, hholds⟩

/-- An action that touches no queue leaves the account as it is. -/
theorem transfers_quiet {action : Action} {next : action.Reply → Program ε α}
    (hquiet : action.alters? = none) (hallowed : (Channel.busy session settings).allows action)
    (hbefore : holds [] [] (.before action))
    (hnext : ∀ answer, (Channel.busy session settings).expects ⟨action, answer⟩ →
      (next answer).Transfers session settings bound holds) :
    (Program.act action next).Transfers session settings (bound + 1) holds := by
  refine transfers_act hallowed hbefore fun answer hanswer => ?_
  have helsewhere : action.alters? ≠ some session := by simp [hquiet]
  rw [Action.put_eq_nil helsewhere, Action.popped_eq_nil helsewhere]
  exact hnext answer hanswer

/-- An element put into the queue is the first of the account of what follows. -/
theorem transfers_push {item : Item} {deadline : Option Duration.Instant}
    {next : Bool → Program ε α} (hitem : item ≠ .endOfStream)
    (hbefore : holds [] [] (.before (.push session item deadline)))
    (haccepted : (next true).Transfers session settings bound fun put => holds (item :: put))
    (hrefused : deadline ≠ none → (next false).Transfers session settings bound holds) :
    (Program.act (.push session item deadline) next).Transfers session settings (bound + 1) holds := by
  refine transfers_act ⟨rfl, hitem⟩ hbefore fun accepted hexpected => ?_
  cases accepted with
  | true => simpa [Deed.put, Deed.popped] using haccepted
  | false => simpa [Deed.put, Deed.popped] using hrefused (hexpected.resolve_left Bool.false_ne_true)

/-- An element taken out of the queue is a byte, and the first of the account of what follows. -/
theorem transfers_pop {deadline : Option Duration.Instant} {next : Option Item → Program ε α}
    (hbefore : holds [] [] (.before (.pop session deadline)))
    (htaken : ∀ byte, (next (some (.byte byte))).Transfers session settings bound fun put popped =>
      holds put (.byte byte :: popped))
    (hnothing : deadline ≠ none → (next none).Transfers session settings bound holds) :
    (Program.act (.pop session deadline) next).Transfers session settings (bound + 1) holds := by
  refine transfers_act rfl hbefore fun item hexpected => ?_
  obtain ⟨hmark, hdeadline⟩ := hexpected
  match item with
  | none => simpa [Deed.put, Deed.popped] using hnothing (hdeadline rfl)
  | some (.byte byte) => simpa [Deed.put, Deed.popped] using htaken byte
  | some .endOfStream => exact absurd rfl hmark

/-- What holds of a second call after a first, with what each of them put and took. -/
theorem transfers_bind {p : Program ε β} {rest : β → Program ε α} {first : Account ε β}
    (hp : p.Transfers session settings bound first)
    (hbefore : ∀ put popped action, first put popped (.before action) →
      holds put popped (.before action))
    (hfailed : ∀ put popped failure, first put popped (.ended (.failed failure)) →
      holds put popped (.ended (.failed failure)))
    (haborted : ∀ put popped message, first put popped (.ended (.aborted message)) →
      holds put popped (.ended (.aborted message)))
    (hrest : ∀ put popped result, first put popped (.ended (.ok result)) →
      (rest result).Transfers session settings later fun put' popped' =>
        holds (put ++ put') (popped ++ popped')) :
    (p >>= rest).Transfers session settings (bound + later) holds := by
  refine along_bind.2 (Along.mono hp fun deeds stand ⟨hlength, hallowed, hfirst⟩ => ?_)
  have hbound : deeds.length ≤ bound + later := Nat.le_trans hlength (Nat.le_add_right _ _)
  match stand with
  | .before action =>
    refine ⟨hbound, ?_, hbefore _ _ _ hfirst⟩
    rintro _ ⟨⟩
    exact hallowed action rfl
  | .ended (.failed failure) => exact ⟨hbound, nofun, hfailed _ _ _ hfirst⟩
  | .ended (.aborted message) => exact ⟨hbound, nofun, haborted _ _ _ hfirst⟩
  | .ended (.ok result) =>
    refine Along.mono (hrest _ _ _ hfirst) fun more stand ⟨hmore, hallowed, hholds⟩ => ⟨?_, hallowed, ?_⟩
    · rw [List.length_append]
      exact Nat.add_le_add hlength hmore
    · simpa using hholds

/-- The account of a call with its failure told in other terms is that of the call. -/
theorem transfers_mapFailure {p : Program δ α} {f : δ → ε} :
    (p.mapFailure f).Transfers session settings bound holds ↔
      p.Transfers session settings bound fun put popped stand =>
        holds put popped (stand.told f id) := by
  refine along_mapFailure.trans ⟨fun h => Along.mono h ?_, fun h => Along.mono h ?_⟩
  all_goals
    rintro deeds stand ⟨hlength, hallowed, hholds⟩
    refine ⟨hlength, fun action haction => hallowed action ?_, hholds⟩
    rcases stand with _ | (_ | _ | _) <;> simp_all [Stand.told]

/-- The account of a call with its abortions told as failures is that of the call. -/
theorem transfers_sheltered {p : Program ε α} {f : String → ε} :
    (p.sheltered f).Transfers session settings bound holds ↔
      p.Transfers session settings bound fun put popped stand =>
        holds put popped (stand.sheltered f) := by
  refine along_sheltered.trans ⟨fun h => Along.mono h ?_, fun h => Along.mono h ?_⟩
  all_goals
    rintro deeds stand ⟨hlength, hallowed, hholds⟩
    refine ⟨hlength, fun action haction => hallowed action ?_, hholds⟩
    rcases stand with _ | (_ | _ | _) <;> simp_all [Stand.sheltered]

/-- The account of a call with its failure taken as a result is that of the call. -/
theorem transfers_attempt {p : Program δ β} {holds : Account ε (Except δ β)} :
    (p.attempt : Program ε (Except δ β)).Transfers session settings bound holds ↔
      p.Transfers session settings bound fun put popped stand => holds put popped stand.attempt := by
  refine along_attempt.trans ⟨fun h => Along.mono h ?_, fun h => Along.mono h ?_⟩
  all_goals
    rintro deeds stand ⟨hlength, hallowed, hholds⟩
    refine ⟨hlength, fun action haction => hallowed action ?_, hholds⟩
    rcases stand with _ | (_ | _ | _) <;> simp_all [Stand.attempt]

/-- A call is judged by the one whose result it tells in other terms. -/
theorem transfers_map {p : Program ε β} {answer : β → α}
    (h : p.Transfers session settings bound fun put popped stand =>
      holds put popped (stand.told id answer)) :
    (p >>= fun result => pure (answer result)).Transfers session settings bound holds := by
  change (p >>= fun result => pure (answer result)).Transfers session settings (bound + 0) holds
  refine transfers_bind h (fun _ _ _ h => h) (fun _ _ _ h => h) (fun _ _ _ h => h)
    fun put popped result hholds => transfers_done ?_
  rw [List.append_nil, List.append_nil]
  exact hholds

/-- A job is judged by its program, with result and failure told in other terms. -/
theorem transfers_job {holds : Account Failure Answer} {p : Program ε α} {failure : ε → Failure}
    {answer : α → Answer}
    (h : p.Transfers session settings bound fun put popped stand =>
      holds put popped (stand.told failure answer)) :
    (p.job failure answer).Transfers session settings bound holds := by
  refine transfers_map (transfers_mapFailure.2 (h.mono (Nat.le_refl _) fun put popped stand hholds => ?_))
  rcases stand with _ | (_ | _ | _) <;> exact hholds

end rules

end Program

namespace Machine

/-- Where one task of two takes nothing and the other puts nothing, what the first puts is what the
other takes and what is queued. -/
theorem Run.items_eq {world : World} {writer reader : Program ε α} {m : Machine ε α}
    {moves : List Move} {turns : List Turn} (hrun : Run (ofPrograms world [writer, reader]) moves turns m)
    {session : Session} {settings : PortSettings} (hlive : world.Live session settings)
    (hallowed : ∀ turn ∈ turns, (Channel.busy session settings).allows turn.deed.action)
    (hpopped : (deedsOf 0 turns).flatMap (Deed.popped session) = [])
    (hput : (deedsOf 1 turns).flatMap (Deed.put session) = []) :
    world.items session ++ (deedsOf 0 turns).flatMap (Deed.put session) =
      (deedsOf 1 turns).flatMap (Deed.popped session) ++ m.world.items session := by
  obtain ⟨q, hqueue, -⟩ := hlive.queue
  obtain ⟨q', hqueue', -, hitems⟩ := hrun.queue hqueue
  rw [World.items_of_queue hqueue, World.items_of_queue hqueue']
  have htask : ∀ turn ∈ turns, turn.task < 2 := hrun.task_lt
  have haccepted : accepted session turns = (deedsOf 0 turns).flatMap (Deed.put session) := by
    apply flatMap_deedsOf
    intro turn hturn hother
    have hone : turn.task = 1 := by
      have := htask turn hturn
      omega
    exact List.flatMap_eq_nil_iff.1 hput _ (hone ▸ mem_deedsOf_of_mem hturn)
  have hremoved : removed session turns = (deedsOf 1 turns).flatMap (Deed.popped session) := by
    have hpops : removed session turns = turns.flatMap fun turn => turn.deed.popped session := by
      refine congrArg List.flatten (List.map_congr_left fun turn hturn => ?_)
      apply removed_eq_popped
      intro hclear
      have hallows := hallowed turn hturn
      rw [hclear] at hallows
      exact hallows
    rw [hpops]
    apply flatMap_deedsOf
    intro turn hturn hother
    have hzero : turn.task = 0 := by
      have := htask turn hturn
      omega
    exact List.flatMap_eq_nil_iff.1 hpopped _ (hzero ▸ mem_deedsOf_of_mem hturn)
  rw [← haccepted, ← hremoved, hitems]

end Machine

end Loopback
