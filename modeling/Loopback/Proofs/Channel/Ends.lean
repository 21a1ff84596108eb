import Loopback.Proofs.Channel.Calls
import Loopback.Proofs.Machine.Series

/-!
# The two ends of a delivery

A program that puts certain bytes and ends well, and one that takes so many bytes and tells of them.
Writing and reading without timeouts are such programs, by whatever handle, in whatever terms they are
told, and a series of reads is one for the sum of their sizes.
-/

namespace Loopback

variable {ε δ α β : Type}

/-- What is put where it stands by a task that delivers bytes: the first of them, and all of them where
it has an accepted result. -/
inductive Delivered (accepts : α → Prop) (data : List UInt8) : List Item → Stand ε α → Prop where
  | midst (sent : List UInt8) {left : List UInt8} {action : Action} (hdata : data = sent ++ left)
      (hpause : ∀ deadline, action ≠ .pause deadline) :
      Delivered accepts data (sent.map .byte) (.before action)
  | all {result : α} (haccepts : accepts result) :
      Delivered accepts data (data.map .byte) (.ended (.ok result))

namespace Delivered

variable {accepts : α → Prop} {data : List UInt8} {put : List Item} {stand : Stand ε α}

/-- Telling the result in other terms changes nothing of what was delivered. -/
theorem told (h : Delivered accepts data put stand) {accepts' : β → Prop} {answer : α → β}
    (hanswer : ∀ result, accepts result → accepts' (answer result)) (failure : ε → δ) :
    Delivered accepts' data put (stand.told failure answer) := by
  cases h with
  | midst sent hdata hpause => exact .midst sent hdata hpause
  | all haccepts => exact .all (hanswer _ haccepts)

/-- What was delivered is delivered with its failure taken as a result. -/
theorem attempt (h : Delivered accepts data put stand) :
    Delivered (ε := δ) (fun result => ∃ r, result = .ok r ∧ accepts r) data put stand.attempt := by
  cases h with
  | midst sent hdata hpause => exact .midst sent hdata hpause
  | all haccepts => exact .all ⟨_, rfl, haccepts⟩

/-- What was delivered is delivered with its abortions told as failures. -/
theorem sheltered (h : Delivered accepts data put stand) (f : String → ε) :
    Delivered accepts data put (stand.sheltered f) := by
  cases h with
  | midst sent hdata hpause => exact .midst sent hdata hpause
  | all haccepts => exact .all haccepts

end Delivered

/-- Without a timeout, and if it can be told how long its bytes take, a write delivers them. -/
theorem Sent.delivered {accepts : α → Prop} {expired : Duration → ε} {transmit : Option Duration}
    {data : List UInt8} {put : List Item} {stand : Stand ε α}
    (h : Sent none transmit accepts expired data put stand) (htransmit : transmit ≠ none) :
    Delivered accepts data put stand := by
  cases h with
  | midst sent hdata hpause =>
    exact .midst sent hdata fun deadline haction => hpause deadline haction rfl
  | all haccepts => exact .all haccepts
  | late sent hdata hleft htimeout => cases htimeout
  | endless hnone => exact absurd hnone htransmit

namespace Taken

variable {size : Nat} {all : Prop} {tells : List UInt8 → α → Prop} {popped : List Item}
  {stand : Stand ε α}

/-- What was taken is taken with its failure taken as a result. -/
theorem attempt (h : Taken size all tells (fun _ => False) popped stand) :
    Taken (ε := δ) size all (fun taken result => ∃ r, result = .ok r ∧ tells taken r) (fun _ => False)
      popped stand.attempt := by
  cases h with
  | midst taken hpause hmore => exact .midst taken hpause hmore
  | answered taken hsize hall htells => exact .answered taken hsize hall ⟨_, rfl, htells⟩
  | nothing hfails => exact hfails.elim

/-- What was taken is taken with its abortions told as failures. -/
theorem sheltered (h : Taken size all tells (fun _ => False) popped stand) (f : String → ε) :
    Taken size all tells (fun _ => False) popped (stand.sheltered f) := by
  cases h with
  | midst taken hpause hmore => exact .midst taken hpause hmore
  | answered taken hsize hall htells => exact .answered taken hsize hall htells
  | nothing hfails => exact hfails.elim

/-- Bytes taken before the others are the first of all. -/
theorem append {taken : List UInt8}
    (h : Taken size all (fun more => tells (taken ++ more)) (fun _ => False) popped stand) :
    Taken (size + taken.length) all tells (fun _ => False) (taken.map .byte ++ popped) stand := by
  induction taken generalizing size tells popped with
  | nil => exact h
  | cons byte taken ih =>
    have hrest : Taken (size + taken.length) all (fun more => tells (byte :: more)) (fun _ => False)
        (taken.map .byte ++ popped) stand := ih h
    exact hrest.cons

end Taken

namespace Program

/-- On a channel in use a program puts certain bytes, takes none and ends with an accepted result. -/
def Delivers (session : Session) (settings : PortSettings) (bound : Nat) (accepts : α → Prop)
    (data : List UInt8) (p : Program ε α) : Prop :=
  p.Transfers session settings bound fun put popped stand =>
    popped = [] ∧ Delivered accepts data put stand

/-- On a channel in use a program takes so many bytes, puts none and ends with a result that tells of
them. -/
def Collects (session : Session) (settings : PortSettings) (bound size : Nat)
    (tells : List UInt8 → α → Prop) (p : Program ε α) : Prop :=
  p.Transfers session settings bound fun put popped stand =>
    put = [] ∧ Taken size True tells (fun _ => False) popped stand

variable {session : Session} {settings : PortSettings} {bound size : Nat}

/-- What takes nothing, whatever it is answered, never tries to take anything. -/
theorem Delivers.ne_pop {accepts : α → Prop} {data : List UInt8} {p : Program ε α}
    (h : p.Delivers session settings bound accepts data) {deeds : List Deed}
    {deadline : Option Duration.Instant} {next : Option Item → Program ε α}
    (hdeeds : ∀ d ∈ deeds, (Channel.busy session settings).expects d) :
    ¬p.Leads deeds (.act (.pop session deadline) next) := by
  intro hleads
  obtain ⟨hpopped, -⟩ := Transfers.leads_act h hleads hdeeds (some (.byte 0)) ⟨nofun, nofun⟩
  simp [Deed.popped] at hpopped

/-- What puts nothing, whatever it is answered, never tries to put anything. -/
theorem Collects.ne_push {tells : List UInt8 → α → Prop} {p : Program ε α}
    (h : p.Collects session settings bound size tells) {deeds : List Deed} {item : Item}
    {deadline : Option Duration.Instant} {next : Bool → Program ε α}
    (hdeeds : ∀ d ∈ deeds, (Channel.busy session settings).expects d) :
    ¬p.Leads deeds (.act (.push session item deadline) next) := by
  intro hleads
  obtain ⟨hput, -⟩ := Transfers.leads_act h hleads hdeeds true (.inl rfl)
  simp [Deed.put] at hput

section rules

variable {accepts : α → Prop} {data : List UInt8} {tells : List UInt8 → α → Prop} {p : Program ε α}

/-- What delivers does so with its failure taken as a result. -/
theorem Delivers.attempt (h : p.Delivers session settings bound accepts data) :
    (p.attempt : Program δ (Except ε α)).Delivers session settings bound
      (fun result => ∃ r, result = .ok r ∧ accepts r) data :=
  transfers_attempt.2 (h.mono (Nat.le_refl _) fun _ _ _ ⟨hpopped, hput⟩ => ⟨hpopped, hput.attempt⟩)

/-- What delivers does so with its result made into another one that is accepted. -/
theorem Delivers.map (h : p.Delivers session settings bound accepts data) {accepts' : β → Prop}
    {answer : α → β} (hanswer : ∀ result, accepts result → accepts' (answer result)) :
    (p >>= fun result => pure (answer result)).Delivers session settings bound accepts' data :=
  transfers_map (h.mono (Nat.le_refl _) fun _ _ _ ⟨hpopped, hput⟩ => ⟨hpopped, hput.told hanswer id⟩)

/-- What delivers does so with its failure told in other terms. -/
theorem Delivers.mapFailure (h : p.Delivers session settings bound accepts data) (f : ε → δ) :
    (p.mapFailure f).Delivers session settings bound accepts data :=
  transfers_mapFailure.2
    (h.mono (Nat.le_refl _) fun _ _ _ ⟨hpopped, hput⟩ => ⟨hpopped, hput.told (fun _ h => h) f⟩)

/-- What delivers does so with its abortions told as failures. -/
theorem Delivers.sheltered (h : p.Delivers session settings bound accepts data) (f : String → ε) :
    (p.sheltered f).Delivers session settings bound accepts data :=
  transfers_sheltered.2 (h.mono (Nat.le_refl _) fun _ _ _ ⟨hpopped, hput⟩ => ⟨hpopped, hput.sheltered f⟩)

/-- What collects does so with its failure taken as a result. -/
theorem Collects.attempt (h : p.Collects session settings bound size tells) :
    (p.attempt : Program δ (Except ε α)).Collects session settings bound size
      fun taken result => ∃ r, result = .ok r ∧ tells taken r :=
  transfers_attempt.2 (h.mono (Nat.le_refl _) fun _ _ _ ⟨hput, htaken⟩ => ⟨hput, htaken.attempt⟩)

/-- What collects does so with its result made into another one that tells what was taken. -/
theorem Collects.map (h : p.Collects session settings bound size tells)
    {tells' : List UInt8 → β → Prop} {answer : α → β}
    (hanswer : ∀ taken result, tells taken result → tells' taken (answer result)) :
    (p >>= fun result => pure (answer result)).Collects session settings bound size tells' :=
  transfers_map
    (h.mono (Nat.le_refl _) fun _ _ _ ⟨hput, htaken⟩ => ⟨hput, htaken.told id hanswer fun _ h => h⟩)

/-- What collects does so with its failure told in other terms. -/
theorem Collects.mapFailure (h : p.Collects session settings bound size tells) (f : ε → δ) :
    (p.mapFailure f).Collects session settings bound size tells :=
  transfers_mapFailure.2
    (h.mono (Nat.le_refl _) fun _ _ _ ⟨hput, htaken⟩ =>
      ⟨hput, htaken.told id (fun _ _ h => h) fun _ h => h⟩)

/-- What collects does so with its abortions told as failures. -/
theorem Collects.sheltered (h : p.Collects session settings bound size tells) (f : String → ε) :
    (p.sheltered f).Collects session settings bound size tells :=
  transfers_sheltered.2 (h.mono (Nat.le_refl _) fun _ _ _ ⟨hput, htaken⟩ => ⟨hput, htaken.sheltered f⟩)

end rules

end Program

section ends

variable {session : Session} {settings : PortSettings}

/-- A write without a timeout delivers its bytes. -/
theorem Channel.delivers_write (hwrite : settings.writeTimeout = none) {data : List UInt8}
    (htransmit : (settings.transmitDuration? data.length).isSome = true) :
    (Channel.write data).Delivers session settings (2 * data.length + 5) (· = data.length) data := by
  refine (transfers_write data).mono (Nat.le_refl _) fun put popped stand ⟨hpopped, hsent⟩ => ?_
  rw [hwrite] at hsent
  exact ⟨hpopped, hsent.delivered (Option.isSome_iff_ne_none.1 htransmit)⟩

/-- A read without a timeout collects as many bytes as it is asked for. -/
theorem Channel.collects_read (hread : settings.readTimeout = none) (size : Nat) :
    (Channel.read size).Collects session settings (4 * size + 4) size fun taken answer =>
      answer = taken := by
  refine (transfers_read size).mono (Nat.le_refl _) fun put popped stand ⟨hput, htaken⟩ => ?_
  exact ⟨hput, htaken.mono (fun _ => hread) (fun _ _ h => h) fun _ h => h⟩

/-- Having a task of its own run it changes nothing of what a program delivers. -/
theorem Background.delivers_runTask {p : Channel.Operation α} {bound : Nat} {accepts : α → Prop}
    {data : List UInt8} (h : p.Delivers session settings bound accepts data) :
    (runTask p).Delivers session settings bound accepts data :=
  (h.mapFailure Failure.port).sheltered Failure.taskAborted

/-- A background task collects what the call that it makes collects. -/
theorem Background.collects_runTask {p : Channel.Operation α} {bound size : Nat}
    {tells : List UInt8 → α → Prop} (h : p.Collects session settings bound size tells) :
    (runTask p).Collects session settings bound size tells :=
  (h.mapFailure Failure.port).sheltered Failure.taskAborted

end ends

end Loopback
