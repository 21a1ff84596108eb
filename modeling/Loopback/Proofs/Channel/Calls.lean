import Loopback.Proofs.Channel.Transfer
import Loopback.Proofs.Settings.Transmission

/-!
# What writing and reading transfer

A write puts its bytes in order and takes nothing: all of them if it succeeds, and not all if it
runs out of time. A read puts nothing and answers just the bytes that it took, in order, however it
comes to its end.
-/

namespace Loopback

variable {ε δ α β : Type}

/-- What a write under a timeout has put where it stands: the first of its bytes, all of them where
it has an accepted result, not all where it ran out of time, and none where there is no telling how
long they take. -/
inductive Sent (timeout transmit : Option Duration) (accepts : α → Prop) (expired : Duration → ε)
    (data : List UInt8) : List Item → Stand ε α → Prop where
  | midst (sent : List UInt8) {left : List UInt8} {action : Action} (hdata : data = sent ++ left)
      (hpause : ∀ deadline, action = .pause deadline → timeout ≠ none) :
      Sent timeout transmit accepts expired data (sent.map .byte) (.before action)
  | all {result : α} (haccepts : accepts result) :
      Sent timeout transmit accepts expired data (data.map .byte) (.ended (.ok result))
  | late (sent : List UInt8) {left : List UInt8} {limit : Duration} (hdata : data = sent ++ left)
      (hleft : left ≠ []) (htimeout : timeout = some limit) :
      Sent timeout transmit accepts expired data (sent.map .byte) (.ended (.failed (expired limit)))
  | endless {message : String} (htransmit : transmit = none) :
      Sent timeout transmit accepts expired data [] (.ended (.aborted message))

namespace Sent

variable {timeout transmit : Option Duration} {accepts : α → Prop} {expired : Duration → ε}
  {data : List UInt8} {put : List Item} {stand : Stand ε α}

/-- A byte sent before the others is the first of all. -/
theorem cons (h : Sent timeout transmit accepts expired data put stand) (htransmit : transmit ≠ none)
    (byte : UInt8) : Sent timeout transmit accepts expired (byte :: data) (.byte byte :: put) stand := by
  cases h with
  | midst sent hdata hpause => exact .midst (byte :: sent) (congrArg (byte :: ·) hdata) hpause
  | all haccepts => exact .all haccepts
  | late sent hdata hleft htimeout =>
    exact .late (byte :: sent) (congrArg (byte :: ·) hdata) hleft htimeout
  | endless hnone => exact absurd hnone htransmit

/-- Telling the result and the failure in other terms changes nothing of what was sent. -/
theorem told (h : Sent timeout transmit accepts expired data put stand) {accepts' : β → Prop}
    {answer : α → β} (hanswer : ∀ result, accepts result → accepts' (answer result)) (failure : ε → δ) :
    Sent timeout transmit accepts' (failure ∘ expired) data put (stand.told failure answer) := by
  cases h with
  | midst sent hdata hpause => exact .midst sent hdata hpause
  | all haccepts => exact .all (hanswer _ haccepts)
  | late sent hdata hleft htimeout => exact .late sent hdata hleft htimeout
  | endless hnone => exact .endless hnone

end Sent

/-- What a read has taken where it stands: some bytes, and more to take where it tries to, the bytes
that its result tells of, or none where it fails. Some reads end only when they have all. -/
inductive Taken (size : Nat) (all : Prop) (tells : List UInt8 → α → Prop) (fails : ε → Prop) :
    List Item → Stand ε α → Prop where
  | midst (taken : List UInt8) {action : Action} (hpause : ∀ deadline, action ≠ .pause deadline)
      (hmore : ∀ session deadline, action = .pop session deadline → taken.length < size) :
      Taken size all tells fails (taken.map .byte) (.before action)
  | answered (taken : List UInt8) {result : α} (hsize : taken.length ≤ size)
      (hall : all → taken.length = size) (htells : tells taken result) :
      Taken size all tells fails (taken.map .byte) (.ended (.ok result))
  | nothing {failure : ε} (hfails : fails failure) :
      Taken size all tells fails [] (.ended (.failed failure))

namespace Taken

variable {size : Nat} {all : Prop} {tells : List UInt8 → α → Prop} {fails : ε → Prop}
  {popped : List Item} {stand : Stand ε α}

/-- A read of which more is known is one of which less is known, in whatever terms it is told. -/
theorem told (h : Taken size all tells fails popped stand) {all' : Prop}
    {tells' : List UInt8 → β → Prop} {fails' : δ → Prop} {answer : α → β} {failure : ε → δ}
    (hall : all' → all) (htells : ∀ taken result, tells taken result → tells' taken (answer result))
    (hfails : ∀ f, fails f → fails' (failure f)) :
    Taken size all' tells' fails' popped (stand.told failure answer) := by
  cases h with
  | midst taken hpause hmore => exact .midst taken hpause hmore
  | answered taken hsize hfull htold => exact .answered taken hsize (hfull ∘ hall) (htells _ _ htold)
  | nothing hfailed => exact .nothing (hfails _ hfailed)

/-- What was taken may be told more weakly. -/
theorem mono (h : Taken size all tells fails popped stand) {all' : Prop}
    {tells' : List UInt8 → α → Prop} {fails' : ε → Prop} (hall : all' → all)
    (htells : ∀ taken result, tells taken result → tells' taken result)
    (hfails : ∀ failure, fails failure → fails' failure) : Taken size all' tells' fails' popped stand := by
  have htold : Taken size all' tells' fails' popped (stand.told id id) := h.told hall htells hfails
  rwa [Stand.told_id] at htold

/-- A byte taken before the others is the first of all. -/
theorem cons {byte : UInt8}
    (h : Taken size all (fun taken => tells (byte :: taken)) (fun _ => False) popped stand) :
    Taken (size + 1) all tells fails (.byte byte :: popped) stand := by
  cases h with
  | midst taken hpause hmore =>
    exact .midst (byte :: taken) hpause fun s d haction => Nat.succ_lt_succ (hmore s d haction)
  | answered taken hsize hall htells =>
    exact .answered (byte :: taken) (Nat.succ_le_succ hsize) (fun h => congrArg (· + 1) (hall h)) htells
  | nothing hfails => exact hfails.elim

end Taken

/-- What follows a read goes on with what was taken. -/
theorem Program.transfers_bind_taken {session : Session} {settings : PortSettings}
    {p : Program ε β} {rest : β → Program ε α} {bound later first size : Nat}
    {all all' : Prop} {tells : List UInt8 → β → Prop} {tells' : List UInt8 → α → Prop} {fails : ε → Prop}
    (hp : p.Transfers session settings bound fun put popped stand => put = [] ∧
      Taken first all tells (fun _ => False) popped stand) (hfirst : first ≤ size)
    (hrest : ∀ taken result, taken.length ≤ first → (all → taken.length = first) → tells taken result →
      (rest result).Transfers session settings later fun put popped stand => put = [] ∧
        Taken size all' tells' fails (taken.map .byte ++ popped) stand) :
    (p >>= rest).Transfers session settings (bound + later) fun put popped stand => put = [] ∧
      Taken size all' tells' fails popped stand := by
  refine transfers_bind hp ?_ ?_ ?_ ?_
  · rintro put popped action ⟨rfl, htaken⟩
    cases htaken with
    | midst taken hpause hmore =>
      exact ⟨rfl, .midst taken hpause fun s d haction => Nat.lt_of_lt_of_le (hmore s d haction) hfirst⟩
  · rintro put popped failure ⟨rfl, htaken⟩
    cases htaken with
    | nothing hfails => exact hfails.elim
  · rintro put popped message ⟨rfl, htaken⟩
    cases htaken
  · rintro put popped result ⟨rfl, htaken⟩
    cases htaken with
    | answered taken hsize hall htells => exact hrest taken result hsize hall htells

namespace Channel

open Program

variable {session : Session} {settings : PortSettings}

/-- Every byte is put before the next one is tried. -/
theorem transfers_pushAll {timeout transmit : Option Duration} (htransmit : transmit ≠ none)
    (data : List UInt8) :
    (pushAll session timeout data).Transfers session settings (2 * data.length) fun put popped stand =>
      popped = [] ∧ Sent timeout transmit (fun _ => True) .writeTimeout data put stand := by
  induction data with
  | nil => exact transfers_done ⟨rfl, .all trivial⟩
  | cons byte rest ih =>
    have hbefore : ∀ action, (∀ deadline, action ≠ .pause deadline) →
        Sent timeout transmit (fun _ : Unit => True) PortFailure.writeTimeout (byte :: rest) [] (.before action) :=
      fun action hpause => .midst [] rfl fun deadline haction => absurd haction (hpause deadline)
    refine transfers_quiet rfl trivial ⟨rfl, hbefore _ nofun⟩ fun now _ => ?_
    refine transfers_push nofun ⟨rfl, hbefore _ nofun⟩ ?_ fun hdeadline => ?_
    · exact ih.mono (Nat.le_refl _) fun put popped stand ⟨hpopped, hsent⟩ =>
        ⟨hpopped, hsent.cons htransmit byte⟩
    · cases htimeout : timeout with
      | none => exact absurd (by rw [htimeout]; rfl) hdeadline
      | some limit => exact transfers_fail ⟨rfl, .late [] rfl nofun rfl⟩

/-- Whatever follows finds the channel open, with its session. -/
theorem transfers_liveSession {bound : Nat} {holds : Account PortFailure α}
    {rest : Session → Operation α} (hopen : holds [] [] (.before .getOpen))
    (hsession : holds [] [] (.before .getSession))
    (hrest : (rest session).Transfers session settings bound holds) :
    (liveSession >>= rest).Transfers session settings (bound + 2) holds := by
  refine transfers_quiet rfl trivial hopen fun isOpen hisOpen => ?_
  obtain rfl : isOpen = true := hisOpen
  refine transfers_quiet rfl trivial hsession fun current hcurrent => ?_
  obtain rfl : current = some session := hcurrent
  exact hrest

/-- A write transfers its bytes, unless its timeout or their duration forbids that. -/
theorem transfers_write (data : List UInt8) :
    (write data).Transfers session settings (2 * data.length + 5) fun put popped stand =>
      popped = [] ∧ Sent settings.writeTimeout (settings.transmitDuration? data.length)
        (· = data.length) .writeTimeout data put stand := by
  have hbefore : ∀ action, (∀ deadline, action ≠ .pause deadline) →
      Sent settings.writeTimeout (settings.transmitDuration? data.length) (· = data.length)
        PortFailure.writeTimeout data [] (.before action) :=
    fun action hpause => .midst [] rfl fun deadline haction => absurd haction (hpause deadline)
  refine transfers_liveSession ⟨rfl, hbefore _ nofun⟩ ⟨rfl, hbefore _ nofun⟩ ?_
  refine transfers_quiet rfl trivial ⟨rfl, hbefore _ nofun⟩ fun answer hanswer => ?_
  obtain rfl : settings = answer := Eq.symm hanswer
  dsimp only [Program.bind]
  split
  next htransmit => exact transfers_abort ⟨rfl, .endless htransmit⟩
  next transmit htransmit =>
    -- With a timeout and without one the bytes are queued alike, so this is shown before the two are told apart.
    have hqueueAll : Transfers session settings (2 * data.length + 2)
        (fun put popped stand => popped = [] ∧ Sent settings.writeTimeout
          (settings.transmitDuration? data.length) (· = data.length) .writeTimeout data put stand)
        (do
          pushAll session settings.writeTimeout data
          Program.note .debug (writtenNote data.length transmit)
          pure data.length) := by
      have hsome : settings.transmitDuration? data.length ≠ none := by simp [htransmit]
      refine transfers_bind (transfers_pushAll hsome data) ?_ ?_ ?_ ?_
      · rintro put popped action ⟨rfl, hsent⟩
        cases hsent with
        | midst sent hdata hpause => exact ⟨rfl, .midst sent hdata hpause⟩
      · rintro put popped failure ⟨rfl, hsent⟩
        cases hsent with
        | late sent hdata hleft htimeout => exact ⟨rfl, .late sent hdata hleft htimeout⟩
      · rintro put popped message ⟨rfl, hsent⟩
        cases hsent with
        | endless hnone => exact ⟨rfl, .endless hnone⟩
      · rintro put popped result ⟨rfl, hsent⟩
        cases hsent with
        | all =>
          refine transfers_quiet rfl trivial ⟨rfl, ?_⟩ fun _ _ => transfers_done ⟨rfl, ?_⟩
          · rw [List.append_nil]
            exact .midst data (List.append_nil _).symm nofun
          · rw [List.append_nil]
            exact .all rfl
    split
    next limit hlimit =>
      split
      next hlong =>
        refine transfers_quiet rfl trivial ⟨rfl, hbefore _ nofun⟩ fun now _ => ?_
        refine transfers_quiet rfl trivial ⟨rfl, .midst [] rfl ?_⟩ fun _ _ => ?_
        · simp [hlimit]
        · refine transfers_fail ⟨rfl, .late [] rfl ?_ hlimit⟩
          rintro rfl
          have := PortSettings.transmitDuration?_zero htransmit
          omega
      next => exact hqueueAll
    next => exact hqueueAll

/-- Bytes are taken one by one until there are enough, or time has run out. -/
theorem transfers_takeWaiting (timeout : Option Duration) (deadline : Option Duration.Instant)
    (size : Nat) (taken : List UInt8) :
    (takeWaiting session timeout deadline size taken).Transfers session settings (4 * size)
      fun put popped stand => put = [] ∧
        Taken size (timeout = none ∧ deadline = none) (fun more answer => answer = taken.reverse ++ more)
          (fun _ => False) popped stand := by
  induction size generalizing taken with
  | zero => exact transfers_done ⟨rfl, .answered [] (Nat.le_refl _) (fun _ => rfl) (by simp)⟩
  | succ left ih =>
    have hmore : ∀ byte, (takeWaiting session timeout deadline left (byte :: taken)).Transfers session
        settings (4 * left) fun put popped stand => put = [] ∧
          Taken (left + 1) (timeout = none ∧ deadline = none)
            (fun more answer => answer = taken.reverse ++ more) (fun _ => False)
            (.byte byte :: popped) stand := by
      intro byte
      refine (ih (byte :: taken)).mono (Nat.le_refl _) fun put popped stand ⟨hput, htaken⟩ => ?_
      exact ⟨hput, Taken.cons (by simpa using htaken)⟩
    refine transfers_quiet rfl trivial ⟨rfl, .midst [] nofun nofun⟩ fun isOpen hisOpen => ?_
    obtain rfl : isOpen = true := hisOpen
    refine transfers_quiet rfl trivial ⟨rfl, .midst [] nofun nofun⟩ fun now _ => ?_
    refine transfers_pop ⟨rfl, .midst [] nofun fun _ _ _ => Nat.succ_pos left⟩ (fun byte => ?_)
      fun hdeadline => ?_
    · cases deadline with
      | none => exact (hmore byte).mono (Nat.le_succ _) fun _ _ _ h => h
      | some instant =>
        refine transfers_quiet rfl trivial ⟨rfl, .midst [byte] nofun nofun⟩ fun later _ => ?_
        by_cases hpassed : instant ≤ later
        · simp only [Program.bind, pure_eq_done, hpassed, decide_true, if_true]
          exact transfers_done ⟨rfl, .answered [byte] (Nat.succ_pos left) (fun ⟨_, h⟩ => nomatch h)
            (List.reverse_cons ..)⟩
        · simp only [Program.bind, pure_eq_done, hpassed, decide_false, Bool.false_eq_true, if_false]
          exact hmore byte
    · refine transfers_done ⟨rfl, .answered [] (Nat.zero_le _) ?_ (List.append_nil _).symm⟩
      rintro ⟨rfl, -⟩
      exact absurd rfl hdeadline

/-- A read answers what it took, and all that was asked for if there is no read timeout. -/
theorem transfers_read (size : Nat) :
    (read size).Transfers session settings (4 * size + 4) fun put popped stand => put = [] ∧
      Taken size (settings.readTimeout = none) (fun taken answer => answer = taken) (fun _ => False)
        popped stand := by
  refine transfers_liveSession ⟨rfl, .midst [] nofun nofun⟩ ⟨rfl, .midst [] nofun nofun⟩ ?_
  refine transfers_quiet rfl trivial ⟨rfl, .midst [] nofun nofun⟩ fun answer hanswer => ?_
  obtain rfl : settings = answer := Eq.symm hanswer
  refine transfers_quiet rfl trivial ⟨rfl, .midst [] nofun nofun⟩ fun now _ => ?_
  refine (transfers_takeWaiting settings.readTimeout (Duration.deadline? now settings.readTimeout)
    size []).mono (Nat.le_refl _) fun put popped stand ⟨hput, htaken⟩ => ⟨hput, ?_⟩
  exact htaken.mono (fun hnone => ⟨hnone, by rw [hnone]; rfl⟩) (fun _ _ htells => htells) fun _ h => h

/-- A read of one byte answers what it took. -/
theorem transfers_readOne :
    readOne.Transfers session settings 8 fun put popped stand => put = [] ∧
      Taken 1 (settings.readTimeout = none) (fun taken (answer : Option UInt8) => answer.toList = taken)
        (fun _ => False) popped stand := by
  change (read 1 >>= fun bytes => pure bytes.head?).Transfers session settings (8 + 0) _
  refine transfers_bind_taken (transfers_read 1) (Nat.le_refl 1) fun taken bytes hsize hall htells => ?_
  subst htells
  refine transfers_done ⟨rfl, ?_⟩
  rw [List.append_nil]
  refine .answered bytes hsize hall ?_
  match bytes with
  | [] => rfl
  | [byte] => rfl

/-- Bytes are taken one by one until there are enough, or none is queued. -/
theorem transfers_takeQueued (limit : Nat) (taken : List UInt8) :
    (takeQueued session limit taken).Transfers session settings (2 * limit)
      fun put popped stand => put = [] ∧
        Taken limit False (fun more answer => answer = taken.reverse ++ more) (fun _ => False)
          popped stand := by
  induction limit generalizing taken with
  | zero => exact transfers_done ⟨rfl, .answered [] (Nat.le_refl _) (fun _ => rfl) (by simp)⟩
  | succ left ih =>
    refine transfers_quiet rfl trivial ⟨rfl, .midst [] nofun nofun⟩ fun now _ => ?_
    refine transfers_pop ⟨rfl, .midst [] nofun fun _ _ _ => Nat.succ_pos left⟩ (fun byte => ?_)
      fun _ => ?_
    · refine (ih (byte :: taken)).mono (Nat.le_refl _) fun put popped stand ⟨hput, htaken⟩ => ?_
      exact ⟨hput, Taken.cons (by simpa using htaken)⟩
    · exact transfers_done ⟨rfl, .answered [] (Nat.zero_le _) nofun (List.append_nil _).symm⟩

/-- A read of what is queued answers what it took. -/
theorem transfers_readAvailable (limit : Nat) :
    (readAvailable limit).Transfers session settings (2 * limit + 2) fun put popped stand => put = [] ∧
      Taken limit False (fun taken answer => answer = taken) (fun _ => False) popped stand := by
  refine transfers_liveSession ⟨rfl, .midst [] nofun nofun⟩ ⟨rfl, .midst [] nofun nofun⟩ ?_
  exact transfers_takeQueued limit []

end Channel

namespace Stream

open Program

variable {session : Session} {settings : PortSettings}

/-- A read of a channel told as one of a stream takes as much. -/
theorem transfers_ofChannel {p : Channel.Operation α} {bound size : Nat} {all : Prop}
    {tells : List UInt8 → α → Prop}
    (hp : p.Transfers session settings bound fun put popped stand => put = [] ∧
      Taken size all tells (fun _ => False) popped stand) :
    (ofChannel p).Transfers session settings bound fun put popped stand => put = [] ∧
      Taken size all tells (fun _ => False) popped stand := by
  refine transfers_mapFailure.2 (hp.mono (Nat.le_refl _) fun put popped stand ⟨hput, htaken⟩ => ?_)
  exact ⟨hput, htaken.told id (fun _ _ htells => htells) fun _ h => h⟩

/-- A read of a stream answers what it took, and took nothing if it timed out. -/
theorem transfers_read (size : Nat) :
    (read size).Transfers session settings (2 * size + 8) fun put popped stand => put = [] ∧
      Taken size False (fun taken answer => answer = taken) (· = timedOut) popped stand := by
  cases size with
  | zero => exact transfers_done ⟨rfl, .answered [] (Nat.le_refl 0) nofun rfl⟩
  | succ size =>
    have hbound : 8 + (2 * size + 2) ≤ 2 * (size + 1) + 8 := by omega
    refine Transfers.mono ?_ hbound fun _ _ _ h => h
    refine transfers_bind_taken (transfers_ofChannel (Channel.transfers_read 1))
      (Nat.le_add_left 1 size) fun taken bytes hsize _ htells => ?_
    subst htells
    match bytes with
    | [] =>
      refine transfers_quiet rfl trivial ⟨rfl, .midst [] nofun nofun⟩ fun isOpen hisOpen => ?_
      obtain rfl : isOpen = true := hisOpen
      exact transfers_fail ⟨rfl, .nothing rfl⟩
    | [byte] =>
      have hrest : (ofChannel (Channel.readAvailable size) >>= fun rest =>
          pure (byte :: rest)).Transfers session settings (2 * size + 2 + 0) fun put popped stand =>
            put = [] ∧ Taken size False (fun taken answer => answer = byte :: taken) (fun _ => False)
              popped stand := by
        refine transfers_bind_taken (transfers_ofChannel (Channel.transfers_readAvailable size))
          (Nat.le_refl size) fun taken rest hsize _ htells => transfers_done ⟨rfl, ?_⟩
        subst htells
        rw [List.append_nil]
        exact .answered rest hsize nofun rfl
      exact hrest.mono (Nat.le_refl _) fun put popped stand ⟨hput, htaken⟩ => ⟨hput, htaken.cons⟩

end Stream

end Loopback
