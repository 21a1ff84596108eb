import Loopback.Proofs.Channel.Calls
import Loopback.Proofs.Machine.Series

/-!
# A session is first in, first out

One task writes to an open channel, call after call, and another one reads, through whatever handles
and under whatever timeouts. At every point the bytes that were queued at first, those put by finished
writes and those put so far by the present one are the bytes that finished reads answered, those
collected so far by the present one and those still queued, in this order.
-/

namespace Loopback

/-- A handle on a channel through which bytes are written. -/
inductive Handle where
  | channel
  | adapter
  | stream

/-- A write through a handle. -/
structure Writing where
  handle : Handle
  data : List UInt8

namespace Writing

/-- The job of a write. -/
def job : Writing → Job
  | ⟨.channel, data⟩ => (Operation.channel (.write data)).job
  | ⟨.adapter, data⟩ => (Operation.adapter (.write data)).job
  | ⟨.stream, data⟩ => (Operation.stream (.write data)).job

/-- The failure of a write that ran out of time, in the terms of its handle. -/
def expired : Writing → Duration → Failure
  | ⟨.channel, _⟩ => .port ∘ .writeTimeout
  | ⟨.adapter, _⟩ => .port ∘ .writeTimeout
  | ⟨.stream, _⟩ => .stream ∘ PortFailure.toIo ∘ .writeTimeout

end Writing

/-- A call that reads bytes, by their number at most. -/
inductive Reading where
  | read (size : Nat)
  | readOne
  | readAvailable (limit : Nat)
  | adapter (size : Nat)
  | stream (size : Nat)

/-- The job of a read. -/
def Reading.job : Reading → Job
  | .read size => (Operation.channel (.read size)).job
  | .readOne => (Operation.channel .readOne).job
  | .readAvailable limit => (Operation.channel (.readAvailable limit)).job
  | .adapter size => (Operation.adapter (.read size)).job
  | .stream size => (Operation.stream (.read size)).job

/-- The bytes that an answer tells of. -/
def Answer.bytesRead : Answer → List UInt8
  | .bytes value => value
  | .maybeByte value => value.toList
  | _ => []

/-- The bytes that a finished read answered. A failed one answered none. -/
def Finished.returned {κ : Type} (f : Finished κ Failure Answer) : List UInt8 :=
  match f.result with
  | .ok answer => answer.bytesRead
  | .error _ => []

/-- What a finished call put into the queue of a session. -/
def Finished.put {κ ε α : Type} (session : Session) (f : Finished κ ε α) : List Item :=
  f.deeds.flatMap (Deed.put session)

/-- What a finished call took out of the queue of a session. -/
def Finished.popped {κ ε α : Type} (session : Session) (f : Finished κ ε α) : List Item :=
  f.deeds.flatMap (Deed.popped session)

namespace Channel

open Program

variable {session : Session} {settings : PortSettings}

/-- A write through any handle sends its bytes, and answers how many they are. -/
theorem transfers_writing (w : Writing) :
    w.job.Transfers session settings (2 * w.data.length + 5) fun put popped stand => popped = [] ∧
      Sent settings.writeTimeout (settings.transmitDuration? w.data.length)
        (· = .count w.data.length) w.expired w.data put stand := by
  obtain ⟨handle, data⟩ := w
  cases handle with
  | channel | adapter =>
    refine transfers_job ((transfers_write data).mono (Nat.le_refl _) fun put popped stand h => ?_)
    exact ⟨h.1, h.2.told (fun _ hcount => congrArg _ hcount) Failure.port⟩
  | stream =>
    refine transfers_job (transfers_mapFailure.2 ?_)
    refine (transfers_write data).mono (Nat.le_refl _) fun put popped stand ⟨hpopped, hsent⟩ => ?_
    have htold : Sent settings.writeTimeout (settings.transmitDuration? data.length) (· = data.length)
        (PortFailure.toIo ∘ .writeTimeout) data put (stand.told PortFailure.toIo id) :=
      hsent.told (fun _ hcount => hcount) PortFailure.toIo
    exact ⟨hpopped, htold.told (fun _ hcount => congrArg _ hcount) Failure.stream⟩

/-- A program that answers the bytes it took does so as a job too, if the job tells of them. -/
theorem transfers_readingJob {ε α : Type} {program : Program ε α} {bound size : Nat} {all : Prop}
    {tells : List UInt8 → α → Prop} {fails : ε → Prop} {failure : ε → Failure} {answer : α → Answer}
    (h : program.Transfers session settings bound fun put popped stand => put = [] ∧
      Taken size all tells fails popped stand)
    (htells : ∀ taken result, tells taken result → (answer result).bytesRead = taken)
    (hfails : ∀ e, fails e → failure e = .stream Stream.timedOut) :
    (program.job failure answer).Transfers session settings bound fun put popped stand => put = [] ∧
      Taken size False (fun taken answer => answer.bytesRead = taken) (· = .stream Stream.timedOut)
        popped stand := by
  refine transfers_job (h.mono (Nat.le_refl _) ?_)
  rintro put popped stand ⟨hput, htaken⟩
  exact ⟨hput, htaken.told False.elim htells hfails⟩

/-- A read by any call answers the bytes that it took, and took none if it failed. -/
theorem transfers_reading (session : Session) (settings : PortSettings) (r : Reading) :
    ∃ bound size, r.job.Transfers session settings bound fun put popped stand => put = [] ∧
      Taken size False (fun taken answer => answer.bytesRead = taken) (· = .stream Stream.timedOut)
        popped stand := by
  have hnever : ∀ failure : PortFailure, False → Failure.port failure = .stream Stream.timedOut :=
    fun _ => False.elim
  cases r with
  | read size | adapter size =>
    exact ⟨_, size, transfers_readingJob (transfers_read size) (fun _ _ htells => htells) hnever⟩
  | readOne =>
    exact ⟨_, 1, transfers_readingJob transfers_readOne (fun _ _ htells => htells) hnever⟩
  | readAvailable limit =>
    exact ⟨_, limit,
      transfers_readingJob (transfers_readAvailable limit) (fun _ _ htells => htells) hnever⟩
  | stream size =>
    refine ⟨_, size, transfers_readingJob (Stream.transfers_read size) (fun _ _ htells => htells) ?_⟩
    intro failure hfailed
    exact congrArg Failure.stream hfailed

/-- A finished write took nothing. It put all its bytes and answered their number, or it ran out of
time with some of them left. -/
theorem writing_ended {f : Finished Writing Failure Answer}
    (hleads : f.call.job.Leads f.deeds (.ofExcept f.result))
    (hdeeds : ∀ d ∈ f.deeds, (busy session settings).expects d) :
    f.popped session = [] ∧
      (∀ answer, f.result = .ok answer →
        answer = .count f.call.data.length ∧ f.put session = f.call.data.map .byte) ∧
      ∀ failure, f.result = .error failure →
        (∃ limit, settings.writeTimeout = some limit ∧ failure = f.call.expired limit) ∧
          ∃ left, left ≠ [] ∧ f.call.data.map .byte = f.put session ++ left.map .byte := by
  obtain ⟨-, hpopped, hsent⟩ := (transfers_writing f.call).leads hleads hdeeds
  refine ⟨hpopped, ?_⟩
  change Sent _ _ _ _ _ (f.put session) _ at hsent
  generalize f.put session = put at hsent
  cases hresult : f.result with
  | ok answer =>
    rw [hresult] at hsent
    cases hsent with
    | all haccepts =>
      refine ⟨fun answer h => ?_, fun failure h => ?_⟩
      · cases h
        exact ⟨haccepts, rfl⟩
      · cases h
  | error failure =>
    rw [hresult] at hsent
    cases hsent with
    | @late sent left limit hdata hleft htimeout =>
      refine ⟨fun answer h => ?_, fun failure h => ?_⟩
      · cases h
      · cases h
        exact ⟨⟨limit, htimeout, rfl⟩, left, hleft, by rw [hdata, List.map_append]⟩

/-- A write on its way took nothing, and put the first of its bytes. -/
theorem writing_midst {w : Writing} {deeds : List Deed} {q : Job} (hleads : w.job.Leads deeds q)
    (hdeeds : ∀ d ∈ deeds, (busy session settings).expects d) :
    deeds.flatMap (Deed.popped session) = [] ∧
      ∃ left, w.data.map .byte = deeds.flatMap (Deed.put session) ++ left := by
  obtain ⟨-, hpopped, hsent⟩ := (transfers_writing w).leads hleads hdeeds
  refine ⟨hpopped, ?_⟩
  generalize deeds.flatMap (Deed.put session) = put at hsent
  generalize q.stand = stand at hsent
  cases hsent with
  | @midst sent left action hdata => exact ⟨left.map .byte, by rw [hdata, List.map_append]⟩
  | all => exact ⟨[], (List.append_nil _).symm⟩
  | @late sent left limit hdata => exact ⟨left.map .byte, by rw [hdata, List.map_append]⟩
  | endless => exact ⟨_, rfl⟩

/-- A finished read put nothing, and answered what it took. If it failed, it was as a stream that
timed out, and it took nothing. -/
theorem reading_ended {f : Finished Reading Failure Answer}
    (hleads : f.call.job.Leads f.deeds (.ofExcept f.result))
    (hdeeds : ∀ d ∈ f.deeds, (busy session settings).expects d) :
    f.put session = [] ∧ f.popped session = f.returned.map .byte ∧
      ∀ failure, f.result = .error failure →
        failure = .stream Stream.timedOut ∧ f.popped session = [] := by
  obtain ⟨bound, size, hreading⟩ := transfers_reading session settings f.call
  obtain ⟨-, hput, htaken⟩ := hreading.leads hleads hdeeds
  refine ⟨hput, ?_⟩
  change Taken size False _ _ (f.popped session) _ at htaken
  generalize f.popped session = popped at htaken
  unfold Finished.returned
  cases hresult : f.result with
  | ok answer =>
    rw [hresult] at htaken
    cases htaken with
    | answered taken hsize hall htells =>
      refine ⟨congrArg _ htells.symm, fun failure h => ?_⟩
      cases h
  | error failure =>
    rw [hresult] at htaken
    cases htaken with
    | nothing hfails =>
      refine ⟨rfl, fun failure h => ?_⟩
      cases h
      exact ⟨hfails, rfl⟩

/-- Writes made in turn took nothing. Each finished one put all its bytes or ran out of time with some of
them left, and the one being made put the first of its bytes. -/
theorem writes_in_turn {writes : List Writing} {deeds writing : List Deed}
    {wrote : List (Finished Writing Failure Answer)} (h : InTurn Writing.job writes deeds wrote writing)
    (hdeeds : ∀ d ∈ deeds, (busy session settings).expects d) :
    deeds.flatMap (Deed.popped session) = [] ∧
      (∀ f ∈ wrote, ∀ answer, f.result = .ok answer →
        answer = .count f.call.data.length ∧ f.put session = f.call.data.map .byte) ∧
      (∀ f ∈ wrote, ∀ failure, f.result = .error failure →
        (∃ limit, settings.writeTimeout = some limit ∧ failure = f.call.expired limit) ∧
          ∃ left, left ≠ [] ∧ f.call.data.map .byte = f.put session ++ left.map .byte) ∧
      ∀ w rest, writes = wrote.map (·.call) ++ w :: rest →
        ∃ left, w.data.map .byte = writing.flatMap (Deed.put session) ++ left := by
  have hwrote := fun f (hf : f ∈ wrote) =>
    writing_ended (h.leads f hf) fun d hd => hdeeds d (h.mem_deeds hf hd)
  have hfinished : (wrote.flatMap fun f => f.deeds.flatMap (Deed.popped session)) = [] :=
    List.flatMap_eq_nil_iff.2 fun f hf => (hwrote f hf).1
  have hcurrent : writing.flatMap (Deed.popped session) = [] ∧
      ∀ w rest, writes = wrote.map (·.call) ++ w :: rest →
        ∃ left, w.data.map .byte = writing.flatMap (Deed.put session) ++ left := by
    rcases h.calls_eq with ⟨hcalls, rfl⟩ | ⟨call, others, q, hcalls, hleads⟩
    · refine ⟨rfl, fun w rest hrest => ?_⟩
      rw [← hcalls] at hrest
      cases List.self_eq_append_right.1 hrest
    · obtain ⟨hpopped, hleft⟩ :=
        writing_midst hleads fun d hd => hdeeds d (h.mem_deeds_of_current hd)
      refine ⟨hpopped, fun w rest hrest => ?_⟩
      obtain ⟨rfl, -⟩ := List.cons.inj (List.append_cancel_left (hcalls.symm.trans hrest))
      exact hleft
  refine ⟨?_, fun f hf => (hwrote f hf).2.1, fun f hf => (hwrote f hf).2.2, hcurrent.2⟩
  rw [h.flatMap_deeds, hfinished, hcurrent.1, List.append_nil]

/-- Reads made in turn put nothing. The finished ones took what they answered, and one that failed timed
out as a stream and took nothing. -/
theorem reads_in_turn {reads : List Reading} {deeds reading : List Deed}
    {got : List (Finished Reading Failure Answer)} (h : InTurn Reading.job reads deeds got reading)
    (hdeeds : ∀ d ∈ deeds, (busy session settings).expects d) :
    deeds.flatMap (Deed.put session) = [] ∧
      deeds.flatMap (Deed.popped session) =
        (got.flatMap Finished.returned).map .byte ++ reading.flatMap (Deed.popped session) ∧
      ∀ f ∈ got, ∀ failure, f.result = .error failure →
        failure = .stream Stream.timedOut ∧ f.popped session = [] := by
  have hgot := fun f (hf : f ∈ got) =>
    reading_ended (h.leads f hf) fun d hd => hdeeds d (h.mem_deeds hf hd)
  have hfinished : (got.flatMap fun f => f.deeds.flatMap (Deed.put session)) = [] :=
    List.flatMap_eq_nil_iff.2 fun f hf => (hgot f hf).1
  have hcurrent : reading.flatMap (Deed.put session) = [] := by
    rcases h.calls_eq with ⟨-, rfl⟩ | ⟨call, others, q, -, hleads⟩
    · rfl
    · obtain ⟨bound, size, hreading⟩ := transfers_reading session settings call
      exact (hreading.leads hleads fun d hd => hdeeds d (h.mem_deeds_of_current hd)).2.1
  have hreturned : (got.flatMap fun f => f.deeds.flatMap (Deed.popped session)) =
      (got.flatMap Finished.returned).map .byte := by
    rw [List.map_flatMap]
    exact congrArg List.flatten (List.map_congr_left fun f hf => (hgot f hf).2.1)
  refine ⟨?_, ?_, fun f hf => (hgot f hf).2.2⟩
  · rw [h.flatMap_deeds, hfinished, hcurrent, List.append_nil]
  · rw [h.flatMap_deeds, hreturned]

end Channel

namespace Machine

variable {δ : Type}

/-- A task that writes and one that reads, each with its calls in turn. -/
def transfer (world : World) (writes : List Writing) (reads : List Reading) :
    Machine δ (List (Except Failure Answer)) :=
  ofPrograms world [Program.series (writes.map Writing.job), Program.series (reads.map Reading.job)]

/-- Writing and reading follow the regime of a channel in use. -/
theorem Run.transfer_expects {world : World} {session : Session} {settings : PortSettings}
    (hlive : world.Live session settings) {writes : List Writing} {reads : List Reading}
    {m : Machine δ (List (Except Failure Answer))} {moves : List Move} {turns : List Turn}
    (hrun : Run (transfer world writes reads) moves turns m) :
    ∀ turn ∈ turns, (Channel.busy session settings).allows turn.deed.action ∧
      (Channel.busy session settings).expects turn.deed := by
  refine (hrun.regime (Channel.busy_kept session settings) hlive ?_).2
  refine List.forall_mem_cons.2 ⟨Program.follows_series fun call hcall => ?_,
    List.forall_mem_singleton.2 (Program.follows_series fun call hcall => ?_)⟩
  · obtain ⟨w, -, rfl⟩ := List.mem_map.1 hcall
    exact (Channel.transfers_writing w).follows
  · obtain ⟨r, -, rfl⟩ := List.mem_map.1 hcall
    obtain ⟨bound, size, hreading⟩ := Channel.transfers_reading session settings r
    exact hreading.follows

/-- Every byte queued at first or put since was taken in the same order or is still queued. Writes that
succeed put all their bytes, and those that run out of time not all; reads answer what they took. -/
theorem Run.session_fifo {world : World} {session : Session} {settings : PortSettings}
    (hlive : world.Live session settings) {writes : List Writing} {reads : List Reading}
    {m : Machine δ (List (Except Failure Answer))} {moves : List Move} {turns : List Turn}
    (hrun : Run (transfer world writes reads) moves turns m) :
    ∃ wrote writing got reading,
      InTurn Writing.job writes (deedsOf 0 turns) wrote writing ∧
      InTurn Reading.job reads (deedsOf 1 turns) got reading ∧
      world.items session ++ (wrote.flatMap (Finished.put session) ++
          writing.flatMap (Deed.put session)) =
        (got.flatMap Finished.returned).map .byte ++ reading.flatMap (Deed.popped session) ++
          m.world.items session ∧
      (∀ f ∈ wrote, ∀ answer, f.result = .ok answer →
        answer = .count f.call.data.length ∧ f.put session = f.call.data.map .byte) ∧
      (∀ f ∈ wrote, ∀ failure, f.result = .error failure →
        (∃ limit, settings.writeTimeout = some limit ∧ failure = f.call.expired limit) ∧
          ∃ left, left ≠ [] ∧ f.call.data.map .byte = f.put session ++ left.map .byte) ∧
      (∀ w rest, writes = wrote.map (·.call) ++ w :: rest →
        ∃ left, w.data.map .byte = writing.flatMap (Deed.put session) ++ left) ∧
      (∀ f ∈ got, ∀ failure, f.result = .error failure →
        failure = .stream Stream.timedOut ∧ f.popped session = []) ∧
      (∀ results, m.outcomeOf? 0 = some (.ok results) →
        wrote.map (·.call) = writes ∧ wrote.map (·.result) = results) ∧
      (∀ results, m.outcomeOf? 1 = some (.ok results) →
        got.map (·.call) = reads ∧ got.map (·.result) = results) := by
  have hturns := hrun.transfer_expects hlive
  have hexpects : ∀ task, ∀ deed ∈ deedsOf task turns, (Channel.busy session settings).expects deed :=
    forall_deedsOf fun turn hturn => (hturns turn hturn).2
  obtain ⟨wrote, writing, hwrites, hwritten⟩ := hrun.inTurn (programOf?_ofPrograms world _ 0)
  obtain ⟨got, reading, hreads, hread⟩ := hrun.inTurn (programOf?_ofPrograms world _ 1)
  obtain ⟨hpopped, hput, hfailed, hmidst⟩ := Channel.writes_in_turn hwrites (hexpects 0)
  obtain ⟨hnothing, htaken, htimedOut⟩ := Channel.reads_in_turn hreads (hexpects 1)
  have hitems := hrun.items_eq hlive (fun turn hturn => (hturns turn hturn).1) hpopped hnothing
  rw [hwrites.flatMap_deeds, htaken] at hitems
  exact ⟨wrote, writing, got, reading, hwrites, hreads, hitems, hput, hfailed, hmidst, htimedOut,
    hwritten, hread⟩

/-- Settings under which neither side waits for ever. -/
def hurriedSettings : PortSettings :=
  { PortSettings.default with
    readTimeout := some (.ofMillis 1)
    writeTimeout := some (.ofMillis 1000) }

/-- An open channel with room for one byte. -/
def hurried : World :=
  let channel := Channel.create ⟨1, .zero⟩ none hurriedSettings
  ⟨{ channel with queues := [Queue.create 1], isOpen := true }, 0, []⟩

/-- Three bytes are written there, while a stream is read twice. -/
def hurriedTransfer : Machine Failure (List (Except Failure Answer)) :=
  transfer hurried [⟨.channel, [1, 2, 3]⟩] [.stream 3, .stream 1]

/-- The first read gets one byte, the second one times out, and so does the write then. -/
def hurriedMoves : List Move :=
  List.replicate 8 (.act 0) ++ List.replicate 7 (.act 1) ++ [.wake 1 0] ++ List.replicate 5 (.act 1) ++
    [.expire 1] ++ List.replicate 8 (.act 1) ++ [.tick 2000000000, .expire 1, .act 1, .act 1] ++
    List.replicate 4 (.act 0) ++ [.tick 2000000000, .expire 0, .act 0]

/-- Of three bytes, a read and a write that both run out of time leave one that was read, one that is queued and one
that was not written. -/
theorem session_fifo_hurried :
    ∃ turns m, Run hurriedTransfer hurriedMoves turns m ∧ hurried.Live 0 hurriedSettings ∧
      m.world.items 0 = [.byte 2] ∧
      ∃ wrote writing got reading,
        InTurn Writing.job [⟨.channel, [1, 2, 3]⟩] (deedsOf 0 turns) wrote writing ∧
        InTurn Reading.job [.stream 3, .stream 1] (deedsOf 1 turns) got reading ∧
        wrote.flatMap (Finished.put 0) ++ writing.flatMap (Deed.put 0) =
          (got.flatMap Finished.returned).map .byte ++ reading.flatMap (Deed.popped 0) ++ [.byte 2] := by
  have hlive : hurried.Live 0 hurriedSettings :=
    ⟨rfl, rfl, rfl, Queue.create 1, rfl, List.not_mem_nil⟩
  have hended : (hurriedTransfer.run? hurriedMoves).map (fun (_, m) => m.world.items 0) =
      some [.byte 2] := by decide +kernel
  obtain ⟨⟨turns, m⟩, hmoves, hitems⟩ := Option.map_eq_some_iff.1 hended
  have hrun : Run hurriedTransfer hurriedMoves turns m := Run.start.run? hmoves
  obtain ⟨wrote, writing, got, reading, hwrites, hreads, hlaw, -⟩ := hrun.session_fifo hlive
  change m.world.items 0 = [.byte 2] at hitems
  rw [hitems] at hlaw
  exact ⟨turns, m, hrun, hlive, hitems, wrote, writing, got, reading, hwrites, hreads, hlaw⟩

end Machine

end Loopback
