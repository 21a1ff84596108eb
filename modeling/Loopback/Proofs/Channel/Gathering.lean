import Loopback.Proofs.Channel.Fifo

/-!
# What a read gathers

A read takes elements of one session, and answers the bytes among them, whatever becomes of the
channel meanwhile. It ends at the mark of the end, if it takes that, and it fails only before it has
taken anything.
-/

namespace Loopback

variable {ε δ α β : Type}

/-- What a deed took out of a queue, with the session. -/
def Deed.taken : Deed → List (Session × Item)
  | ⟨.pop session _, some item⟩ => [(session, item)]
  | _ => []

/-- Only a pop takes anything. -/
theorem Deed.popped_of_taken {deed : Deed} {session : Session} {item : Item}
    (h : (session, item) ∈ deed.taken) :
    deed.action.alters? = some session ∧ deed.popped session = [item] := by
  obtain ⟨action, answer⟩ := deed
  cases action with
  | pop place deadline =>
    cases answer with
    | none => cases h
    | some other =>
      cases List.mem_singleton.1 h
      exact ⟨rfl, if_pos rfl⟩
  | _ => cases h

/-- Bytes as they are taken in a session. -/
def bytesIn (session : Session) (bytes : List UInt8) : List (Session × Item) :=
  bytes.map fun byte => (session, .byte byte)

/-- The mark of the end is not among bytes. -/
theorem bytesIn_ne_mark {session place : Session} {bytes : List UInt8} {got : List (Session × Item)} :
    bytesIn session bytes ≠ got ++ [(place, .endOfStream)] := by
  intro h
  have hmem : (place, Item.endOfStream) ∈ bytesIn session bytes := by simp [h]
  simp [bytesIn] at hmem

/-- What a read has gathered in a session where it stands: bytes, or in the end perhaps the mark after
them, and its result tells of the bytes. -/
inductive Gathered (session : Session) (size : Nat) (tells : List UInt8 → α → Prop) :
    List (Session × Item) → Stand ε α → Prop where
  | midst (bytes : List UInt8) {action : Action} :
      Gathered session size tells (bytesIn session bytes) (.before action)
  | answered (bytes : List UInt8) (mark : List (Session × Item)) {result : α}
      (hsize : bytes.length ≤ size) (hmark : mark = [] ∨ mark = [(session, .endOfStream)])
      (htells : tells bytes result) :
      Gathered session size tells (bytesIn session bytes ++ mark) (.ended (.ok result))
  | failed {failure : ε} : Gathered session size tells [] (.ended (.failed failure))

namespace Gathered

variable {session : Session} {size : Nat} {tells : List UInt8 → α → Prop}
  {got : List (Session × Item)} {stand : Stand ε α}

/-- A byte taken before the others is the first of all. -/
theorem cons {byte : UInt8} (h : Gathered session size (fun bytes => tells (byte :: bytes)) got stand)
    (hfailed : ∀ failure, stand ≠ .ended (.failed failure)) :
    Gathered session (size + 1) tells ((session, .byte byte) :: got) stand := by
  cases h with
  | midst bytes => exact .midst (byte :: bytes)
  | answered bytes mark hsize hmark htells =>
    exact .answered (byte :: bytes) mark (Nat.succ_le_succ hsize) hmark htells
  | failed => exact absurd rfl (hfailed _)

/-- Telling the result and the failure in other terms changes nothing of what was gathered. -/
theorem told (h : Gathered session size tells got stand) {tells' : List UInt8 → β → Prop}
    {answer : α → β} (htells : ∀ bytes result, bytes.length ≤ size → tells bytes result →
      tells' bytes (answer result)) (failure : ε → δ) :
    Gathered session size tells' got (stand.told failure answer) := by
  cases h with
  | midst bytes => exact .midst bytes
  | answered bytes mark hsize hmark htold => exact .answered bytes mark hsize hmark (htells _ _ hsize htold)
  | failed => exact .failed

/-- What was gathered is gathered with its abortions told as failures. -/
theorem sheltered (h : Gathered session size tells got stand) (f : String → ε) :
    Gathered session size tells got (stand.sheltered f) := by
  cases h with
  | midst bytes => exact .midst bytes
  | answered bytes mark hsize hmark htells => exact .answered bytes mark hsize hmark htells
  | failed => exact .failed

/-- A read that has taken the mark has ended, and answers the bytes it took before. -/
theorem of_mark {place : Session}
    (h : Gathered session size tells (got ++ [(place, .endOfStream)]) stand) :
    ∃ bytes result, got = bytesIn place bytes ∧ stand = .ended (.ok result) ∧ tells bytes result := by
  generalize hall : got ++ [(place, .endOfStream)] = all at h
  cases h with
  | midst => exact absurd hall.symm bytesIn_ne_mark
  | @answered bytes mark result hsize hmark htells =>
    rcases hmark with rfl | rfl
    · rw [List.append_nil] at hall
      exact absurd hall.symm bytesIn_ne_mark
    · obtain ⟨rfl, hlast⟩ := List.append_inj' hall rfl
      cases hlast
      exact ⟨bytes, result, rfl, rfl, htells⟩
  | failed => exact absurd hall (by simp)

end Gathered

namespace Program

/-- All along a program this holds of what it has taken and of where it stands. -/
def Gathers (holds : List (Session × Item) → Stand ε α → Prop) (p : Program ε α) : Prop :=
  p.Along (fun _ => True) fun deeds stand => holds (deeds.flatMap Deed.taken) stand

section rules

variable {holds : List (Session × Item) → Stand ε α → Prop}

/-- What holds of a gathering holds wherever it is led. -/
theorem Gathers.leads {p q : Program ε α} (h : p.Gathers holds) {deeds : List Deed}
    (hleads : p.Leads deeds q) : holds (deeds.flatMap Deed.taken) q.stand :=
  Along.leads h hleads fun _ _ => trivial

/-- What holds of a gathering may be told more weakly. -/
theorem Gathers.mono {holds' : List (Session × Item) → Stand ε α → Prop} {p : Program ε α}
    (h : p.Gathers holds) (himp : ∀ got stand, holds got stand → holds' got stand) : p.Gathers holds' :=
  Along.mono h fun _ _ => himp _ _

/-- An action that takes nothing leaves all to what follows. -/
theorem gathers_quiet {action : Action} {next : action.Reply → Program ε α}
    (hquiet : ∀ answer, Deed.taken ⟨action, answer⟩ = []) (hbefore : holds [] (.before action))
    (hnext : ∀ answer, (next answer).Gathers holds) : (Program.act action next).Gathers holds := by
  refine along_act.2 ⟨hbefore, fun answer _ => ?_⟩
  refine Along.mono (hnext answer) fun deeds stand h => ?_
  rw [List.flatMap_cons, hquiet answer]
  exact h

/-- An element that is taken is the first of what follows. -/
theorem gathers_pop {session : Session} {deadline : Option Duration.Instant}
    {next : Option Item → Program ε α} (hbefore : holds [] (.before (.pop session deadline)))
    (htaken : ∀ item, (next (some item)).Gathers fun got => holds ((session, item) :: got))
    (hnothing : (next none).Gathers holds) :
    (Program.act (.pop session deadline) next).Gathers holds := by
  refine along_act.2 ⟨hbefore, fun answer _ => ?_⟩
  cases answer with
  | none => exact hnothing
  | some item => exact htaken item

/-- A program is judged by the one whose result it tells in other terms. -/
theorem Gathers.map {p : Program ε β} {answer : β → α}
    (h : p.Gathers fun got stand => holds got (stand.told id answer)) :
    (p >>= fun result => pure (answer result)).Gathers holds :=
  along_map.2 h

/-- What gathers does so with its failure told in other terms. -/
theorem Gathers.mapFailure {p : Program δ α} {f : δ → ε}
    (h : p.Gathers fun got stand => holds got (stand.told f id)) : (p.mapFailure f).Gathers holds :=
  along_mapFailure.2 h

/-- What gathers does so with its abortions told as failures. -/
theorem Gathers.sheltered {p : Program ε α} {f : String → ε}
    (h : p.Gathers fun got stand => holds got (stand.sheltered f)) : (p.sheltered f).Gathers holds :=
  along_sheltered.2 h

/-- What gathers does so as a job. -/
theorem Gathers.job {p : Program ε α} {failure : ε → Failure} {answer : α → Answer}
    {holds : List (Session × Item) → Stand Failure Answer → Prop}
    (h : p.Gathers fun got stand => holds got (stand.told failure answer)) :
    (p.job failure answer).Gathers holds := by
  refine Gathers.map (Gathers.mapFailure (h.mono fun got stand h => ?_))
  rcases stand with _ | (_ | _ | _) <;> exact h

end rules

end Program

namespace Channel

open Program

/-- Whatever follows, nothing is taken before a session is known. -/
theorem gathers_liveSession {holds : List (Session × Item) → Stand PortFailure α → Prop}
    {rest : Session → Operation α} (hopen : holds [] (.before .getOpen))
    (hsession : holds [] (.before .getSession)) (hfailed : holds [] (.ended (.failed .notOpen)))
    (hrest : ∀ session, (rest session).Gathers holds) : (liveSession >>= rest).Gathers holds := by
  refine gathers_quiet (fun _ => rfl) hopen fun isOpen => ?_
  cases isOpen with
  | false => exact hfailed
  | true =>
    refine gathers_quiet (fun _ => rfl) hsession fun current => ?_
    cases current with
    | none => exact hfailed
    | some session => exact hrest session

/-- Bytes are gathered one by one until there are enough, none comes, or the mark does. -/
theorem gathers_takeWaiting {session : Session} (timeout : Option Duration)
    (deadline : Option Duration.Instant) (size : Nat) (taken : List UInt8) :
    (takeWaiting session timeout deadline size taken).Gathers fun got stand =>
      Gathered session size (fun bytes answer => answer = taken.reverse ++ bytes) got stand ∧
        ∀ failure, stand ≠ .ended (.failed failure) := by
  have hmidst : ∀ {size : Nat} {tells : List UInt8 → List UInt8 → Prop} (action : Action),
      Gathered session size tells [] (.before action : Stand PortFailure (List UInt8)) ∧
        ∀ failure, (.before action : Stand PortFailure (List UInt8)) ≠ .ended (.failed failure) :=
    fun _ => ⟨.midst [], nofun⟩
  -- By induction on how many bytes are still wanted, whatever was taken before.
  induction size generalizing taken with
  | zero => exact ⟨.answered [] [] (Nat.le_refl _) (.inl rfl) (by simp), nofun⟩
  | succ left ih =>
    have hended : ∀ {tells : List UInt8 → List UInt8 → Prop} {result : List UInt8}, tells [] result →
        Gathered session (left + 1) tells [] (.ended (.ok result) : Stand PortFailure (List UInt8)) ∧
          ∀ failure, (.ended (.ok result) : Stand PortFailure (List UInt8)) ≠ .ended (.failed failure) :=
      fun htells => ⟨.answered [] [] (Nat.zero_le _) (.inl rfl) htells, nofun⟩
    have hmore : ∀ byte, (takeWaiting session timeout deadline left (byte :: taken)).Gathers
        fun got stand => Gathered session (left + 1) (fun bytes answer => answer = taken.reverse ++ bytes)
          ((session, .byte byte) :: got) stand ∧ ∀ failure, stand ≠ .ended (.failed failure) := by
      intro byte
      refine (ih (byte :: taken)).mono fun got stand ⟨hgathered, hfailed⟩ => ?_
      exact ⟨Gathered.cons (by simpa using hgathered) hfailed, hfailed⟩
    refine gathers_quiet (fun _ => rfl) (hmidst _) fun isOpen => ?_
    cases isOpen with
    | false => exact hended (List.append_nil _).symm
    | true =>
      refine gathers_quiet (fun _ => rfl) (hmidst _) fun now => ?_
      refine gathers_pop (hmidst _) (fun item => ?_) (hended (List.append_nil _).symm)
      cases item with
      | endOfStream =>
        refine ⟨.answered [] [(session, .endOfStream)] (Nat.zero_le _) (.inr rfl) ?_, nofun⟩
        exact (List.append_nil _).symm
      | byte byte =>
        cases deadline with
        | none => exact hmore byte
        | some instant =>
          refine gathers_quiet (fun _ => rfl) ⟨.midst [byte], nofun⟩ fun later => ?_
          dsimp only [Program.bind, pure_eq_done]
          split
          · refine ⟨.answered [byte] [] (Nat.succ_pos left) (.inl rfl) ?_, nofun⟩
            exact List.reverse_cons ..
          · exact hmore byte

/-- A read gathers what it answers in one session. -/
theorem gathers_read (size : Nat) :
    (read size).Gathers fun got stand =>
      ∃ session, Gathered session size (fun bytes answer => answer = bytes) got stand := by
  have hmidst : ∀ action, ∃ session, Gathered session size (fun bytes answer => answer = bytes) []
      (.before action : Stand PortFailure (List UInt8)) := fun _ => ⟨0, .midst []⟩
  refine gathers_liveSession (hmidst _) (hmidst _) ⟨0, .failed⟩ fun session => ?_
  refine gathers_quiet (fun _ => rfl) (hmidst _) fun settings => ?_
  refine gathers_quiet (fun _ => rfl) (hmidst _) fun now => ?_
  refine (gathers_takeWaiting settings.readTimeout _ size []).mono fun got stand ⟨hgathered, _⟩ => ?_
  exact ⟨session, hgathered⟩

/-- Bytes are gathered one by one until there are enough, none is queued, or the mark is. -/
theorem gathers_takeQueued {session : Session} (limit : Nat) (taken : List UInt8) :
    (takeQueued session limit taken).Gathers fun got stand =>
      Gathered session limit (fun bytes answer => answer = taken.reverse ++ bytes) got stand ∧
        ∀ failure, stand ≠ .ended (.failed failure) := by
  induction limit generalizing taken with
  | zero => exact ⟨.answered [] [] (Nat.le_refl _) (.inl rfl) (by simp), nofun⟩
  | succ left ih =>
    refine gathers_quiet (fun _ => rfl) ⟨.midst [], nofun⟩ fun now => ?_
    refine gathers_pop ⟨.midst [], nofun⟩ (fun item => ?_) ?_
    · cases item with
      | endOfStream =>
        refine ⟨.answered [] [(session, .endOfStream)] (Nat.zero_le _) (.inr rfl) ?_, nofun⟩
        exact (List.append_nil _).symm
      | byte byte =>
        refine (ih (byte :: taken)).mono fun got stand ⟨hgathered, hfailed⟩ => ?_
        exact ⟨Gathered.cons (by simpa using hgathered) hfailed, hfailed⟩
    · exact ⟨.answered [] [] (Nat.zero_le _) (.inl rfl) (List.append_nil _).symm, nofun⟩

/-- A read of what is queued gathers what it answers in one session. -/
theorem gathers_readAvailable (limit : Nat) :
    (readAvailable limit).Gathers fun got stand =>
      ∃ session, Gathered session limit (fun bytes answer => answer = bytes) got stand := by
  refine gathers_liveSession ⟨0, .midst []⟩ ⟨0, .midst []⟩ ⟨0, .failed⟩ fun session => ?_
  exact (gathers_takeQueued limit []).mono fun got stand ⟨hgathered, _⟩ => ⟨session, hgathered⟩

end Channel

/-- The bytes that an outcome tells of. -/
def Outcome.bytesRead : Outcome Failure Answer → List UInt8
  | .ok answer => answer.bytesRead
  | _ => []

/-- What tells of bytes is a success. -/
theorem Outcome.exists_of_bytesRead {outcome : Outcome Failure Answer} {bytes : List UInt8}
    (h : outcome.bytesRead = bytes) (hbytes : bytes ≠ []) :
    ∃ answer, outcome = .ok answer ∧ answer.bytesRead = bytes := by
  cases outcome with
  | ok answer => exact ⟨answer, rfl, h⟩
  | _ => exact absurd h.symm hbytes

/-- Reads of a channel, through whatever handle and in whatever task. -/
inductive Operation.Reads : Operation → Prop where
  | channel (size : Nat) : Reads (.channel (.read size))
  | one : Reads (.channel .readOne)
  | available (limit : Nat) : Reads (.channel (.readAvailable limit))
  | adapter (size : Nat) : Reads (.adapter (.read size))
  | background (size : Nat) : Reads (.background (.read size))

/-- A read gathers in one session the bytes that its answer tells of. -/
theorem Operation.Reads.gathers {operation : Operation} (h : operation.Reads) :
    operation.job.Gathers fun got stand => ∃ session size,
      Gathered session size (fun bytes answer => answer.bytesRead = bytes) got stand := by
  cases h with
  | channel size | adapter size =>
    refine Program.Gathers.job ((Channel.gathers_read size).mono fun got stand ⟨session, h⟩ => ?_)
    exact ⟨session, size, h.told (fun _ _ _ htells => htells) Failure.port⟩
  | one =>
    refine Program.Gathers.job (Program.Gathers.map ?_)
    refine (Channel.gathers_read 1).mono fun got stand ⟨session, h⟩ => ⟨session, 1, ?_⟩
    have hhead : Gathered session 1 (fun bytes (answer : Option UInt8) => answer.toList = bytes) got
        (stand.told id List.head?) := by
      refine h.told (fun bytes answer hsize htells => ?_) id
      subst htells
      match answer with
      | [] => rfl
      | [byte] => rfl
    exact hhead.told (fun _ _ _ htells => htells) Failure.port
  | available limit =>
    refine Program.Gathers.job ((Channel.gathers_readAvailable limit).mono fun got stand ⟨session, h⟩ => ?_)
    exact ⟨session, limit, h.told (fun _ _ _ htells => htells) Failure.port⟩
  | background size =>
    refine Program.Gathers.job (Program.Gathers.sheltered (Program.Gathers.mapFailure ?_))
    refine (Channel.gathers_read size).mono fun got stand ⟨session, h⟩ => ⟨session, size, ?_⟩
    have htold : Gathered session size (fun bytes answer => answer = bytes) got
        (stand.told Background.Failure.port id) :=
      h.told (fun _ _ _ htells => htells) Background.Failure.port
    exact (htold.sheltered Background.Failure.taskAborted).told (fun _ _ _ htells => htells)
      Failure.background

end Loopback
