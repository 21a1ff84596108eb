import Loopback.Proofs.Channel.Fifo
import Loopback.Proofs.Channel.Sending
import Loopback.Proofs.Machine.Attaining
import Loopback.Proofs.Settings.Advising
import Loopback.Proofs.Work.Holding

/-!
# Writes that would take too long

A write is first weighed by the settings that it is told: if its bytes would take longer on a wire than its timeout,
or if there is no telling how long, it comes to an end without trying to queue any of them. Since the advisory
duration is less than a nanosecond from the exact one and never zero for any bytes, no write of some bytes passes
where the timeout is zero. Since it grows with the bytes, and as the rate falls, a write that is turned down is so
with more bytes, at a lower rate and under a shorter timeout, too.
-/

namespace Loopback

variable {ε δ α β : Type}

/-- Whether an action tries to queue an element that counts. -/
def Action.pushes : Action → Bool
  | .push _ _ _ => true
  | _ => false

/-- The settings that a deed was told. -/
def Deed.settings? : Deed → Option PortSettings
  | ⟨.getSettings, settings⟩ => some settings
  | _ => none

/-- The settings that a task was told first. -/
def settingsTold? (deeds : List Deed) : Option PortSettings :=
  deeds.findSome? Deed.settings?

namespace PortSettings

variable {settings : PortSettings} {length : Nat}

/-- That the settings let so many bytes pass: there is a duration for them, and the write timeout is not shorter. -/
def Admits (settings : PortSettings) (length : Nat) : Prop :=
  ∃ transmit, settings.transmitDuration? length = some transmit ∧
    ∀ timeout, settings.writeTimeout = some timeout → transmit.nanos ≤ timeout.nanos

/-- How a write ends that the settings do not let pass: after its timeout, or at once where there is no telling how
long its bytes take. -/
inductive TurnsDown (settings : PortSettings) (length : Nat) (expired : Duration → ε) : Outcome ε α → Prop where
  | late {timeout transmit : Duration} (htransmit : settings.transmitDuration? length = some transmit)
      (htimeout : settings.writeTimeout = some timeout) (hlate : timeout.nanos < transmit.nanos) :
      TurnsDown settings length expired (.failed (expired timeout))
  | untold (htransmit : settings.transmitDuration? length = none) :
      TurnsDown settings length expired (.aborted noTransmitDuration)

/-- What a write comes to by the settings: it ends as they demand, having tried to queue nothing, if they do not let
its bytes pass, and fails only after it has tried if they do. -/
structure Judges (settings : PortSettings) (length : Nat) (expired : Duration → ε) (deeds : List Deed)
    (stand : Stand ε α) : Prop where
  denied : ¬settings.Admits length → (∀ deed ∈ deeds, deed.action.pushes = false) ∧
    ∀ outcome, stand = .ended outcome → settings.TurnsDown length expired outcome
  passed : settings.Admits length → ∀ failure, stand = .ended (.failed failure) →
    ∃ deed ∈ deeds, deed.action.pushes = true

variable {expired : Duration → ε} {deeds : List Deed} {stand : Stand ε α}

/-- A write that is turned down is so with its failure told in other terms. -/
theorem TurnsDown.told {outcome : Outcome ε α} (h : settings.TurnsDown length expired outcome) (failure : ε → δ)
    (answer : α → β) : settings.TurnsDown length (failure ∘ expired) (outcome.told failure answer) := by
  cases h with
  | late htransmit htimeout hlate => exact .late htransmit htimeout hlate
  | untold htransmit => exact .untold htransmit

/-- What the settings demand of a write, they demand with its failure told in other terms. -/
theorem Judges.told (h : settings.Judges length expired deeds stand) (failure : ε → δ) (answer : α → β) :
    settings.Judges length (failure ∘ expired) deeds (stand.told failure answer) where
  denied hnot := by
    refine ⟨(h.denied hnot).1, fun outcome hended => ?_⟩
    rcases stand with _ | outcome'
    · cases hended
    · obtain rfl : outcome'.told failure answer = outcome := by rcases outcome' with _ | _ | _ <;> cases hended <;> rfl
      exact ((h.denied hnot).2 _ rfl).told failure answer
  passed hpass reason hended := by
    rcases stand with _ | (_ | _ | _) <;> cases hended
    exact h.passed hpass _ rfl

/-- Where the settings let a write pass, all they demand is that it tries before it fails. -/
theorem Judges.of_admits (h : settings.Admits length)
    (htried : ∀ failure, stand = .ended (.failed failure) → ∃ deed ∈ deeds, deed.action.pushes = true) :
    settings.Judges length expired deeds stand :=
  ⟨fun hnot => absurd h hnot, fun _ => htried⟩

/-- Where the settings do not let a write pass, they demand that it tries nothing and ends as they say. -/
theorem Judges.of_not_admits (h : ¬settings.Admits length) (hquiet : ∀ deed ∈ deeds, deed.action.pushes = false)
    (hends : ∀ outcome, stand = .ended outcome → settings.TurnsDown length expired outcome) :
    settings.Judges length expired deeds stand :=
  ⟨fun _ => ⟨hquiet, hends⟩, fun hpass => absurd hpass h⟩

/-- Deeds that try nothing change nothing of what the settings demand. -/
theorem Judges.cons (h : settings.Judges length expired deeds stand) {deed : Deed}
    (hquiet : deed.action.pushes = false) : settings.Judges length expired (deed :: deeds) stand where
  denied hnot := ⟨List.forall_mem_cons.2 ⟨hquiet, (h.denied hnot).1⟩, (h.denied hnot).2⟩
  passed hpass failure hended := by
    obtain ⟨tried, htried, hpushes⟩ := h.passed hpass failure hended
    exact ⟨tried, List.mem_cons_of_mem _ htried, hpushes⟩

/-- Few bytes do not pass where there is no time for them, and then that has passed. -/
theorem not_admits_of_zero (htimeout : settings.writeTimeout = some .zero) (hsome : length ≠ 0)
    (hfew : 10 * length < settings.baudRate.toNat * 2 ^ 22) :
    ¬settings.Admits length ∧ ∀ outcome : Outcome ε α, settings.TurnsDown length expired outcome →
      outcome = .failed (expired .zero) := by
  obtain ⟨transmit, htransmit, hmeasures⟩ := exists_transmitDuration?_eq hfew
  have hlate : 2 ≤ transmit.nanos := hmeasures.two_le hsome
  constructor
  · rintro ⟨transmit', htransmit', htime⟩
    obtain rfl := Option.some.inj (htransmit.symm.trans htransmit')
    exact absurd (htime .zero htimeout) (Nat.not_le.2 (Nat.zero_lt_two.trans_le hlate))
  · rintro _ (⟨-, htimeout', -⟩ | hnone)
    · obtain rfl := Option.some.inj (htimeout.symm.trans htimeout')
      rfl
    · cases htransmit.symm.trans hnone

/-- Bytes that would take longer than the timeout do not pass. -/
theorem not_admits_of_span_lt
    (h : Duration.span settings.writeTimeout < Duration.span (settings.transmitDuration? length)) :
    ¬settings.Admits length := by
  rintro ⟨transmit, htransmit, htime⟩
  rw [htransmit] at h
  cases htimeout : settings.writeTimeout with
  | none =>
    rw [htimeout] at h
    exact absurd h not_top_lt
  | some timeout =>
    rw [htimeout] at h
    exact absurd (Nat.cast_lt.1 h) (Nat.not_lt.2 (htime timeout htimeout))

end PortSettings

open PortSettings

namespace Program

/-- Whatever it is answered, a program does what the settings that it is told demand. -/
def Heeds (length : Nat) (expired : Duration → ε) (p : Program ε α) : Prop :=
  p.Along (fun _ => True) fun deeds stand =>
    ∀ settings, settingsTold? deeds = some settings → settings.Judges length expired deeds stand

section rules

variable {length : Nat} {expired : Duration → ε} {p : Program ε α}

/-- A write that does as the settings demand does so with its failure told in other terms. -/
theorem Heeds.mapFailure (h : p.Heeds length expired) (failure : ε → δ) :
    (p.mapFailure failure).Heeds length (failure ∘ expired) :=
  along_mapFailure.2 (Along.mono h fun _ _ hheeds settings htold => (hheeds settings htold).told failure id)

/-- What heeds the settings as a part of a job does so as that job. -/
theorem Heeds.job (h : p.Heeds length expired) (failure : ε → Failure) (answer : α → Answer) :
    (p.job failure answer).Heeds length (failure ∘ expired) :=
  along_map.2 (Along.mono (h.mapFailure failure) fun _ _ hheeds settings htold =>
    (hheeds settings htold).told id answer)

/-- A failure was told no settings, so that none demand anything of it. -/
theorem heeds_fail {failure : ε} : (Program.fail failure : Program ε α).Heeds length expired := nofun

/-- What holds however a program goes on holds along it. -/
theorem along_of_forall {expected : Deed → Prop} {holds : List Deed → Stand ε α → Prop}
    (h : ∀ deeds stand, holds deeds stand) : p.Along expected holds := by
  induction p generalizing holds with
  | act action next ih => exact along_act.2 ⟨h _ _, fun answer _ => ih answer fun deeds => h _⟩
  | _ => exact h _ _

/-- As long as it is told no settings, a program heeds them later. -/
theorem heeds_act {action : Action} {next : action.Reply → Program ε α}
    (huntold : ∀ answer, Deed.settings? ⟨action, answer⟩ = none) (hquiet : action.pushes = false)
    (hnext : ∀ answer, (next answer).Heeds length expired) : (Program.act action next).Heeds length expired := by
  refine along_act.2 ⟨nofun, fun answer _ => Along.mono (hnext answer) fun deeds stand hheeds settings htold => ?_⟩
  rw [settingsTold?, List.findSome?_cons, huntold] at htold
  exact (hheeds settings htold).cons hquiet

/-- Once it is told the settings, a program does what these demand. -/
theorem heeds_getSettings {next : PortSettings → Program ε α} (hnext : ∀ settings,
      (next settings).Along (fun _ => True) (settings.Judges length expired)) :
    (Program.act .getSettings next).Heeds length expired := by
  refine along_act.2 ⟨nofun, fun answer _ => Along.mono (hnext answer) fun deeds stand hjudges settings htold => ?_⟩
  obtain rfl : answer = settings := Option.some.inj htold
  exact hjudges.cons rfl

/-- What comes of a program that never waits for ever comes of it as a job. -/
theorem brings_job {ends : Outcome Failure Answer → World → Prop} {w : World} {failure : ε → Failure}
    {answer : α → Answer} (h : p.Brings (fun outcome => ends (outcome.told failure answer)) (fun _ _ => False) w) :
    (p.job failure answer).Brings ends (fun _ _ => False) w := by
  induction p generalizing w with
  | act action next ih => exact h.act_imp (fun reply _ => ih reply) fun _ => id
  | _ => exact h

end rules

end Program

namespace Channel

open Program

/-- Queueing bytes fails only after it has tried. -/
theorem along_pushAll_tried (session : Session) (timeout : Option Duration) (data : List UInt8) :
    (pushAll session timeout data).Along (fun _ => True) fun deeds stand =>
      ∀ failure, stand = .ended (.failed failure) → ∃ deed ∈ deeds, deed.action.pushes = true := by
  cases data with
  | nil => exact nofun
  | cons byte rest =>
    refine along_act.2 ⟨nofun, fun now _ => along_act.2 ⟨nofun, fun accepted _ => ?_⟩⟩
    exact along_of_forall fun deeds stand failure _ => ⟨_, List.mem_cons_of_mem _ List.mem_cons_self, rfl⟩

/-- A write that the settings let pass fails only after it has tried to queue its bytes. -/
theorem along_queueing {settings : PortSettings} {session : Session} {data : List UInt8} {message : String}
    (hadmits : settings.Admits data.length) :
    (do
      pushAll session settings.writeTimeout data
      noteWritten data.length message).Along (fun _ => True)
      (settings.Judges data.length PortFailure.writeTimeout) := by
  have hnote : ∀ deeds, (noteWritten data.length message).Along (fun _ => True)
      fun later => settings.Judges data.length PortFailure.writeTimeout (deeds ++ later) := fun deeds =>
    along_act.2 ⟨.of_admits hadmits nofun, fun _ _ => Judges.of_admits hadmits nofun⟩
  refine along_bind.2 (Along.mono (along_pushAll_tried session settings.writeTimeout data) ?_)
  intro deeds stand htried
  rcases stand with _ | (_ | failure | _)
  · exact .of_admits hadmits nofun
  · exact hnote deeds
  · exact .of_admits hadmits fun _ _ => htried failure rfl
  · exact .of_admits hadmits nofun

/-- A write goes by the settings that it is told. -/
theorem heeds_write (data : List UInt8) : (write data).Heeds data.length .writeTimeout := by
  refine heeds_act (fun _ => rfl) rfl fun isOpen => ?_
  cases isOpen with
  | false => exact heeds_fail
  | true =>
    refine heeds_act (fun _ => rfl) rfl fun current => ?_
    cases current with
    | none => exact heeds_fail
    | some session =>
      refine heeds_getSettings fun settings => ?_
      -- Bytes are put only where the duration can be told and the timeout leaves room for it.
      dsimp only [Program.bind]
      split
      next htransmit =>
        refine .of_not_admits (fun hadmits => ?_) (List.forall_mem_nil _) fun outcome hended => ?_
        · obtain ⟨transmit, hsome, -⟩ := hadmits
          cases htransmit.symm.trans hsome
        · obtain rfl := Stand.ended.inj hended
          exact .untold htransmit
      next transmit htransmit =>
        split
        · split
          next timeout htimeout hlate =>
            have hnot : ¬settings.Admits data.length := by
              rintro ⟨transmit', htransmit', htime⟩
              obtain rfl := Option.some.inj (htransmit.symm.trans htransmit')
              exact Nat.not_lt.2 (htime timeout htimeout) hlate
            refine along_act.2 ⟨.of_not_admits hnot (List.forall_mem_nil _) nofun, fun now _ => ?_⟩
            refine along_act.2 ⟨.of_not_admits hnot (by simp [Action.pushes]) nofun, fun _ _ => ?_⟩
            refine Judges.of_not_admits hnot (by simp [Action.pushes]) fun outcome hended => ?_
            obtain rfl := Stand.ended.inj hended
            exact .late htransmit htimeout hlate
          next timeout htimeout hearly =>
            refine along_queueing ⟨transmit, htransmit, fun timeout' htimeout' => ?_⟩
            obtain rfl := Option.some.inj (htimeout.symm.trans htimeout')
            exact Nat.not_lt.1 hearly
        next htimeout =>
          exact along_queueing ⟨transmit, htransmit, fun timeout htimeout' => nomatch htimeout.symm.trans htimeout'⟩

/-- A write to an open channel whose settings do not let it pass ends as they demand, and only time passes. -/
theorem brings_write_denied {w : World} {session : Session} {held data : List UInt8} (hw : w.Holds session held)
    (hnot : ¬w.channel.settings.Admits data.length) :
    (write data).Brings (fun outcome w' =>
      w.channel.settings.TurnsDown data.length PortFailure.writeTimeout outcome ∧ w.Later w') (fun _ _ => False) w := by
  cases htransmit : w.channel.settings.transmitDuration? data.length with
  | none =>
    refine brings_liveSession hw fun w₁ hw₁ => ?_
    refine brings_look .getSettings w.channel.settings (fun w₂ hmore => ?_) fun w₂ hmore => ?_
    · rw [Action.run, (hw₁.trans hmore).channel_eq]
    · simp only [Program.bind, htransmit]
      exact fun w₃ hw₃ => ⟨.untold htransmit, hw₁.trans (hmore.trans hw₃)⟩
  | some transmit =>
    refine brings_write hw rfl htransmit (fun timeout htimeout hlate w₁ hw₁ => ?_) fun htime => ?_
    · exact ⟨.late htransmit htimeout hlate, hw₁⟩
    · exact absurd ⟨transmit, htransmit, htime⟩ hnot

end Channel

namespace Writing

/-- A write goes by the settings that it is told, through whatever handle it is made. -/
theorem heeds (writing : Writing) : writing.job.Heeds writing.data.length writing.expired := by
  obtain ⟨handle, data⟩ := writing
  cases handle with
  | channel | adapter => exact (Channel.heeds_write data).job .port .count
  | stream => exact ((Channel.heeds_write data).mapFailure PortFailure.toIo).job .stream .count

/-- Whatever others do, a write does what the settings demand that it was told. -/
theorem judged {start m : Machine Failure Answer} {moves : List Move} {turns : List Turn} {task : Nat}
    {writing : Writing} {settings : PortSettings} (hrun : start.Run moves turns m)
    (hbegun : start.programOf? task = some writing.job)
    (htold : settingsTold? (deedsOf task turns) = some settings) :
    (¬settings.Admits writing.data.length → (∀ deed ∈ deedsOf task turns, deed.action.pushes = false) ∧
      ∀ outcome, m.outcomeOf? task = some outcome →
        settings.TurnsDown writing.data.length writing.expired outcome) ∧
    (settings.Admits writing.data.length → ∀ failure, m.outcomeOf? task = some (.failed failure) →
      ∃ deed ∈ deedsOf task turns, deed.action.pushes = true) := by
  obtain ⟨q, hq, hleads⟩ := hrun.leads hbegun
  have hjudges := Program.Along.leads writing.heeds hleads (fun _ _ => trivial) settings htold
  refine ⟨fun hnot => ⟨(hjudges.denied hnot).1, fun outcome hended => ?_⟩, fun hpass failure hended => ?_⟩
  · exact (hjudges.denied hnot).2 outcome (Machine.stand_of_outcomeOf? hq hended)
  · exact hjudges.passed hpass failure (Machine.stand_of_outcomeOf? hq hended)

/-- What is made of a write is made of it through whatever handle. -/
theorem brings_denied {writing : Writing} {w : World} {session : Session} {held : List UInt8}
    (hw : w.Holds session held) (hnot : ¬w.channel.settings.Admits writing.data.length) :
    writing.job.Brings (fun outcome w' =>
      w.channel.settings.TurnsDown writing.data.length writing.expired outcome ∧ w.Later w') (fun _ _ => False) w := by
  obtain ⟨handle, data⟩ := writing
  have hwrite := Channel.brings_write_denied hw hnot
  cases handle with
  | channel | adapter =>
    exact Program.brings_job (hwrite.mono (fun _ _ h => ⟨h.1.told Failure.port Answer.count, h.2⟩) fun _ _ => id)
  | stream =>
    refine Program.brings_job (Program.Brings.mapFailure (hwrite.mono (fun outcome w' h => ⟨?_, h.2⟩) fun _ _ => id))
    have htold := (h.1.told PortFailure.toIo id).told Failure.stream Answer.count
    rcases outcome with _ | _ | _ <;> exact htold

/-- The advisory duration of few bytes is less than a nanosecond from the exact one, is that where it is whole, and is
at least two nanoseconds for any bytes at all. So a write of any such bytes under a write timeout of zero, through
whatever handle and at whatever rate, fails with that timeout on an open channel, and only time passes; and whatever
others do meanwhile, a write that was told such settings tries to queue nothing and cannot end otherwise. -/
theorem advised_within_nanosecond :
    (∀ {baud : UInt32} {length : Nat}, 10 * length < baud.toNat * 2 ^ 22 →
      ∃ transmit, transmitDuration? baud length = some transmit ∧ transmit.Measures baud.toNat length) ∧
    (∀ (writing : Writing) {builder : Builder} {m : Machine Failure Answer}, Worked builder m →
      m.world.channel.isOpen = true → m.world.channel.settings.writeTimeout = some .zero → writing.data ≠ [] →
      10 * writing.data.length < m.world.channel.settings.baudRate.toNat * 2 ^ 22 →
      writing.job.LeftAlone (fun outcome w' => outcome = .failed (writing.expired .zero) ∧ m.world.Later w')
        (fun _ _ => False) m.world) ∧
    (∀ (writing : Writing) {start m : Machine Failure Answer} {moves : List Move} {turns : List Turn} {task : Nat}
      {settings : PortSettings}, start.Run moves turns m → start.programOf? task = some writing.job →
      settingsTold? (deedsOf task turns) = some settings → settings.writeTimeout = some .zero → writing.data ≠ [] →
      10 * writing.data.length < settings.baudRate.toNat * 2 ^ 22 →
      (∀ deed ∈ deedsOf task turns, deed.action.pushes = false) ∧
        ∀ outcome, m.outcomeOf? task = some outcome → outcome = .failed (writing.expired .zero)) := by
  refine ⟨exists_transmitDuration?_eq, ?_, ?_⟩
  · intro writing builder m hworked hopen htimeout hdata hfew
    obtain ⟨session, held, hw⟩ := hworked.exists_holds hopen
    obtain ⟨hnot, hzero⟩ := not_admits_of_zero htimeout (List.length_eq_zero_iff.not.2 hdata) hfew
    exact ((brings_denied hw hnot).mono (fun _ _ h => ⟨hzero _ h.1, h.2⟩) fun _ _ => id).leftAlone
  · intro writing start m moves turns task settings hrun hbegun htold htimeout hdata hfew
    obtain ⟨hnot, hzero⟩ := not_admits_of_zero htimeout (List.length_eq_zero_iff.not.2 hdata) hfew
    obtain ⟨hquiet, hends⟩ := (judged hrun hbegun htold).1 hnot
    exact ⟨hquiet, fun outcome hended => hzero outcome (hends outcome hended)⟩

/-- A channel at the highest rate, with no time for a write. -/
def hasty : Builder where
  address := some "loop://"
  capacity := 4
  settings := { PortSettings.default with baudRate := 4294967295, writeTimeout := some .zero }
  closeSettle := .zero

/-- It is opened, and a byte is written. -/
def hastyWork : List Job := [(Operation.channel .openPort).job, job ⟨.channel, [7]⟩]

/-- The moves for that, one task after the other. -/
def hastyMoves : List Move := List.replicate 26 (.act 0) ++ List.replicate 5 (.act 1)

/-- At the highest rate one byte is advised a nanosecond or more, so that a write without any time fails, left alone
or not. -/
theorem advised_within_nanosecond_hasty :
    (∃ transmit, transmitDuration? 4294967295 1 = some transmit ∧ transmit.Measures 4294967295 1) ∧
    (∃ m, Worked hasty m ∧ m.world.channel.isOpen = true ∧
      (job ⟨.stream, [7]⟩).LeftAlone
        (fun outcome w' => outcome = .failed (.stream (PortFailure.toIo (.writeTimeout .zero))) ∧ m.world.Later w')
        (fun _ _ => False) m.world) ∧
    ∃ turns m, (Machine.ofPrograms hasty.world hastyWork).Run hastyMoves turns m ∧
      (∀ deed ∈ deedsOf 1 turns, deed.action.pushes = false) ∧
      m.outcomeOf? 1 = some (.failed (.port (.writeTimeout .zero))) := by
  obtain ⟨hmeasures, halone, hbeside⟩ := advised_within_nanosecond
  refine ⟨hmeasures (by decide), ?_, ?_⟩
  · have hworks : ((Machine.ofPrograms hasty.world []).work?
        [(.channel .openPort, List.replicate 26 (.act 0))]).map
        (fun m => (m.world.channel.isOpen, m.world.channel.settings)) = some (true, hasty.settings) := by
      decide +kernel
    obtain ⟨m, hm, hleft⟩ := Option.map_eq_some_iff.1 hworks
    obtain ⟨hopen, hsettings⟩ := Prod.mk.inj hleft
    have hworked : Worked hasty m := Worked.start.work? hm
    refine ⟨m, hworked, hopen, halone ⟨.stream, [7]⟩ hworked hopen ?_ nofun ?_⟩
    · rw [hsettings]
      rfl
    · rw [hsettings]
      decide
  · obtain ⟨turns, m, hrun, htold, hended⟩ : ∃ turns m,
        (Machine.ofPrograms hasty.world hastyWork).Run hastyMoves turns m ∧
        settingsTold? (deedsOf 1 turns) = some hasty.settings ∧ (m.outcomeOf? 1).isSome = true :=
      Machine.exists_run (by decide +kernel)
    obtain ⟨outcome, houtcome⟩ := Option.isSome_iff_exists.1 hended
    obtain ⟨hquiet, hends⟩ := hbeside ⟨.channel, [7]⟩ hrun rfl htold rfl nofun (by decide)
    refine ⟨turns, m, hrun, hquiet, ?_⟩
    rw [houtcome, hends outcome houtcome]
    rfl

/-- That a write was turned down somewhere under certain settings: it was told these, and failed without having tried
to queue anything. -/
inductive TurnedDown (writing : Writing) (settings : PortSettings) : Prop where
  | intro {start m : Machine Failure Answer} {moves : List Move} {turns : List Turn} {task : Nat} {failure : Failure}
      (hrun : start.Run moves turns m) (hbegun : start.programOf? task = some writing.job)
      (htold : settingsTold? (deedsOf task turns) = some settings)
      (hended : m.outcomeOf? task = some (.failed failure))
      (hquiet : ∀ deed ∈ deedsOf task turns, deed.action.pushes = false)

/-- A write is turned down only if its bytes would take longer than its timeout. -/
theorem TurnedDown.span_lt {writing : Writing} {settings : PortSettings} (h : writing.TurnedDown settings) :
    Duration.span settings.writeTimeout < Duration.span (settings.transmitDuration? writing.data.length) := by
  obtain ⟨hrun, hbegun, htold, hended, hquiet⟩ := h
  obtain ⟨hdenied, hpassed⟩ := judged hrun hbegun htold
  have hnot : ¬settings.Admits writing.data.length := by
    intro hadmits
    obtain ⟨deed, hdeed, hpushes⟩ := hpassed hadmits _ hended
    rw [hquiet deed hdeed] at hpushes
    cases hpushes
  cases (hdenied hnot).2 _ hended with
  | late htransmit htimeout hlate =>
    rw [htransmit, htimeout]
    exact Nat.cast_lt.2 hlate

/-- Where a write was turned down, none of more bytes passes at a lower rate and under a shorter timeout. -/
theorem TurnedDown.not_admits {writing : Writing} {settings settings' : PortSettings} {length : Nat}
    (h : writing.TurnedDown settings) (hbaud : settings'.baudRate ≤ settings.baudRate)
    (hlength : writing.data.length ≤ length)
    (htimeout : Duration.span settings'.writeTimeout ≤ Duration.span settings.writeTimeout) :
    ¬settings'.Admits length := by
  by_cases hpos : settings'.baudRate = 0
  · rintro ⟨transmit, htransmit, -⟩
    simp [PortSettings.transmitDuration?, Loopback.transmitDuration?, hpos] at htransmit
  · apply not_admits_of_span_lt
    calc
      Duration.span settings'.writeTimeout ≤ Duration.span settings.writeTimeout := htimeout
      _ < Duration.span (settings.transmitDuration? writing.data.length) := h.span_lt
      _ ≤ Duration.span (settings'.transmitDuration? length) := span_transmitDuration?_mono hbaud hpos hlength

/-- More bytes never have a shorter advisory duration, nor do they at a lower rate, where none counts as endless; and
there is none only if the seconds, as they are rounded, are too many for 64 bits. So where a write was turned down, none
of at least as many bytes passes whose rate and write timeout are not greater, through whatever handle: on an open
channel it fails with its timeout, or is aborted for want of a duration, and only time passes; and whatever others do
meanwhile, if it was told such settings it tries to queue nothing and cannot end otherwise. -/
theorem turned_down_likewise :
    (∀ {baud₁ baud₂ : UInt32} {length₁ length₂ : Nat}, baud₂ ≤ baud₁ → baud₂ ≠ 0 → length₁ ≤ length₂ →
      Duration.span (transmitDuration? baud₁ length₁) ≤ Duration.span (transmitDuration? baud₂ length₂)) ∧
    (∀ {baud : UInt32} (length : Nat), baud ≠ 0 →
      (transmitDuration? baud length = none ↔ 2 ^ 64 * Number.unitsPerOne ≤ transmitUnits baud.toNat length)) ∧
    (∀ {writing₁ : Writing} {settings₁ : PortSettings} (writing₂ : Writing) (settings₂ : PortSettings),
      writing₁.TurnedDown settings₁ →
      settings₂.baudRate ≤ settings₁.baudRate → writing₁.data.length ≤ writing₂.data.length →
      Duration.span settings₂.writeTimeout ≤ Duration.span settings₁.writeTimeout →
      (∀ {builder : Builder} {m : Machine Failure Answer}, Worked builder m → m.world.channel.isOpen = true →
        m.world.channel.settings = settings₂ →
        writing₂.job.LeftAlone (fun outcome w' =>
          settings₂.TurnsDown writing₂.data.length writing₂.expired outcome ∧ m.world.Later w')
          (fun _ _ => False) m.world) ∧
      ∀ {start m : Machine Failure Answer} {moves : List Move} {turns : List Turn} {task : Nat},
        start.Run moves turns m → start.programOf? task = some writing₂.job →
        settingsTold? (deedsOf task turns) = some settings₂ →
        (∀ deed ∈ deedsOf task turns, deed.action.pushes = false) ∧
          ∀ outcome, m.outcomeOf? task = some outcome →
            settings₂.TurnsDown writing₂.data.length writing₂.expired outcome) := by
  refine ⟨span_transmitDuration?_mono, fun length hbaud => transmitDuration?_eq_none_iff hbaud length, ?_⟩
  intro writing₁ settings₁ writing₂ settings₂ hturned hbaud hlength htimeout
  have hnot := hturned.not_admits hbaud hlength htimeout
  refine ⟨?_, fun hrun hbegun htold => (judged hrun hbegun htold).1 hnot⟩
  rintro builder m hworked hopen rfl
  obtain ⟨session, held, hw⟩ := hworked.exists_holds hopen
  exact (brings_denied hw hnot).leftAlone

/-- The work of a hasty channel that is slowed down before more bytes are written. -/
def slowedWork : List Job := [(Operation.channel .openPort).job, (Operation.device (.setBaudRate 300)).job,
  job ⟨.adapter, [7, 8]⟩]

/-- The moves for that, one task after the other. -/
def slowedMoves : List Move :=
  List.replicate 26 (.act 0) ++ List.replicate 4 (.act 1) ++ List.replicate 5 (.act 2)

/-- The settings of the channel that was slowed down. -/
def slowed : PortSettings := { hasty.settings with baudRate := 300 }

/-- On a channel that was slowed down a longer write is turned down as well, left alone or not. -/
theorem turned_down_likewise_slowed :
    Duration.span (transmitDuration? 4294967295 1) ≤ Duration.span (transmitDuration? 300 2) ∧
    (transmitDuration? 300 2 = none ↔ 2 ^ 64 * Number.unitsPerOne ≤ transmitUnits 300 2) ∧
    TurnedDown ⟨.channel, [7]⟩ hasty.settings ∧
    (∃ m, Worked hasty m ∧ m.world.channel.isOpen = true ∧
      (job ⟨.stream, [7, 8]⟩).LeftAlone (fun outcome w' =>
        slowed.TurnsDown 2 (expired ⟨.stream, [7, 8]⟩) outcome ∧ m.world.Later w') (fun _ _ => False) m.world) ∧
    ∃ turns m outcome, (Machine.ofPrograms hasty.world slowedWork).Run slowedMoves turns m ∧
      (∀ deed ∈ deedsOf 2 turns, deed.action.pushes = false) ∧ m.outcomeOf? 2 = some outcome ∧
      slowed.TurnsDown 2 (expired ⟨.adapter, [7, 8]⟩) outcome := by
  obtain ⟨hmono, hnone, hlikewise⟩ := turned_down_likewise
  have hturned : TurnedDown ⟨.channel, [7]⟩ hasty.settings := by
    obtain ⟨turns, m, hrun, htold, hended⟩ : ∃ turns m,
        (Machine.ofPrograms hasty.world hastyWork).Run hastyMoves turns m ∧
        settingsTold? (deedsOf 1 turns) = some hasty.settings ∧ (m.outcomeOf? 1).isSome = true :=
      Machine.exists_run (by decide +kernel)
    obtain ⟨outcome, houtcome⟩ := Option.isSome_iff_exists.1 hended
    have hbegun : (Machine.ofPrograms hasty.world hastyWork).programOf? 1 = some (job ⟨.channel, [7]⟩) := rfl
    obtain ⟨hnot, hzero⟩ : ¬hasty.settings.Admits 1 ∧ ∀ outcome : Outcome Failure Answer,
        hasty.settings.TurnsDown 1 (expired ⟨.channel, [7]⟩) outcome →
        outcome = .failed (expired ⟨.channel, [7]⟩ .zero) :=
      PortSettings.not_admits_of_zero rfl (by decide) (by decide)
    obtain ⟨hquiet, hends⟩ := (judged hrun hbegun htold).1 hnot
    rw [hzero outcome (hends outcome houtcome)] at houtcome
    exact .intro hrun hbegun htold houtcome hquiet
  refine ⟨hmono (by decide) (by decide) (by decide), hnone 2 (by decide), hturned, ?_, ?_⟩
  · have hworks : ((Machine.ofPrograms hasty.world []).work?
        [(.channel .openPort, List.replicate 26 (.act 0)), (.device (.setBaudRate 300), List.replicate 4 (.act 1))]).map
        (fun m => (m.world.channel.isOpen, m.world.channel.settings)) = some (true, slowed) := by
      decide +kernel
    obtain ⟨m, hm, hleft⟩ := Option.map_eq_some_iff.1 hworks
    obtain ⟨hopen, hsettings⟩ := Prod.mk.inj hleft
    have hworked : Worked hasty m := Worked.start.work? hm
    obtain ⟨halone, -⟩ := hlikewise ⟨.stream, [7, 8]⟩ slowed hturned (by decide) (by decide) le_rfl
    exact ⟨m, hworked, hopen, halone hworked hopen hsettings⟩
  · obtain ⟨turns, m, hrun, htold, hended⟩ : ∃ turns m,
        (Machine.ofPrograms hasty.world slowedWork).Run slowedMoves turns m ∧
        settingsTold? (deedsOf 2 turns) = some slowed ∧ (m.outcomeOf? 2).isSome = true :=
      Machine.exists_run (by decide +kernel)
    obtain ⟨outcome, houtcome⟩ := Option.isSome_iff_exists.1 hended
    obtain ⟨-, hbeside⟩ := hlikewise ⟨.adapter, [7, 8]⟩ slowed hturned (by decide) (by decide) le_rfl
    obtain ⟨hquiet, hends⟩ := hbeside hrun rfl htold
    exact ⟨turns, m, outcome, hrun, hquiet, houtcome, hends outcome houtcome⟩

end Writing

end Loopback
