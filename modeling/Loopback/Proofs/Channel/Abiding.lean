import Loopback.Proofs.Channel.Gathering

/-!
# A read stays with its session

A read fails only where it finds the channel closed at its beginning. Once it was given a session it asks for
no other, goes to no queue but that of the session, and ends well, whatever it is answered. So whenever a read is
seen that waits there, it answers later what it had taken before and what it has taken since.
-/

namespace Loopback

variable {ε δ α β : Type}

/-- Where a program stands that stays with a session: it may wait for an element there, and for nothing else,
or it has ended well. -/
def Stand.Abides (session : Session) : Stand ε α → Prop
  | .before action => action ≠ .getSession ∧ (∀ deadline, action ≠ .pause deadline) ∧
      ∀ post ∈ action.post?, post = (session, .item)
  | .ended outcome => ∃ result, outcome = .ok result

namespace Stand

variable {session : Session} {stand : Stand ε α}

/-- What stays with a session does so with its outcome told in other terms. -/
theorem Abides.told (h : stand.Abides session) (failure : ε → δ) (answer : α → β) :
    (stand.told failure answer).Abides session := by
  rcases stand with _ | (_ | _ | _)
  · exact h
  · exact ⟨_, rfl⟩
  · obtain ⟨_, h⟩ := h
    cases h
  · obtain ⟨_, h⟩ := h
    cases h

/-- What stays with a session does so with its abortions told as failures. -/
theorem Abides.sheltered (h : stand.Abides session) (f : String → ε) : (stand.sheltered f).Abides session := by
  rcases stand with _ | (_ | _ | _)
  · exact h
  · exact h
  · exact h
  · obtain ⟨_, h⟩ := h
    cases h

/-- A wait of a program that stays with a session is one for an element there. -/
theorem Abides.pop {action : Action} (h : (.before action : Stand ε α).Abides session) {w : World}
    {otherwise : action.Reply} (hwaits : action.Waits w otherwise) : ∃ deadline, action = .pop session deadline := by
  obtain ⟨-, hpause, hpost⟩ := h
  cases hwaits with
  | push => cases hpost _ rfl
  | pop =>
    cases hpost _ rfl
    exact ⟨_, rfl⟩
  | pause => exact absurd rfl (hpause _)

end Stand

namespace Program

variable {session : Session} {p : Program ε α}

/-- That a program stays with a session all along. -/
def Abides (session : Session) (p : Program ε α) : Prop :=
  p.Along (fun _ => True) fun _ stand => stand.Abides session

/-- That all was taken in one session. -/
def TakenIn (session : Session) (deeds : List Deed) : Prop := ∀ place ∈ deeds.flatMap Deed.taken, place.1 = session

/-- A deed that takes nothing outside a session, before others that do not, keeps all within it. -/
theorem TakenIn.cons {deed : Deed} {deeds : List Deed} (h : TakenIn session deeds)
    (hpost : ∀ post ∈ deed.action.post?, post = (session, .item)) : TakenIn session (deed :: deeds) := by
  refine List.forall_mem_append.2 ⟨fun place hplace => ?_, h⟩
  obtain ⟨action, answer⟩ := deed
  cases action with
  | pop s deadline =>
    cases hpost _ rfl
    rcases answer with _ | item
    · cases hplace
    · rw [List.mem_singleton.1 hplace]
  | _ => cases hplace

/-- That a program stays with a session once it was given that. -/
def Settles (p : Program ε α) : Prop :=
  p.Along (fun _ => True) fun deeds stand => ∀ session, ⟨.getSession, some session⟩ ∈ deeds →
    stand.Abides session ∧ TakenIn session deeds

/-- What stays with a session asks for no other, and takes nothing in another. -/
theorem Abides.course (h : p.Abides session) : p.Along (fun _ => True) fun deeds stand =>
    stand.Abides session ∧ TakenIn session deeds ∧ ∀ deed ∈ deeds, deed.action ≠ .getSession := by
  induction p with
  | act action next ih =>
    obtain ⟨habides, hnext⟩ := h
    refine ⟨⟨habides, List.forall_mem_nil _, List.forall_mem_nil _⟩, fun answer _ => ?_⟩
    refine (ih answer (hnext answer trivial)).mono fun deeds stand ⟨hstand, htaken, hunasked⟩ => ?_
    exact ⟨hstand, htaken.cons habides.2.2, List.forall_mem_cons.2 ⟨habides.1, hunasked⟩⟩
  | _ => exact ⟨h, List.forall_mem_nil _, List.forall_mem_nil _⟩

/-- An action at which nobody waits leaves all to what follows, unless it asks for the session. -/
theorem settles_act {action : Action} {next : action.Reply → Program ε α} (hasks : action ≠ .getSession)
    (hpost : action.post? = none) (hnext : ∀ answer, (next answer).Settles) : (Program.act action next).Settles := by
  refine ⟨nofun, fun answer _ => Along.mono (hnext answer) fun deeds stand h session hgiven => ?_⟩
  obtain ⟨hstand, htaken⟩ := h session ((List.mem_cons.1 hgiven).resolve_left fun hfirst =>
    hasks (congrArg Deed.action hfirst).symm)
  exact ⟨hstand, htaken.cons (by simp [hpost])⟩

/-- A program settles that stays with whatever session it is given. -/
theorem settles_getSession {next : Option Session → Program ε α}
    (hgiven : ∀ session, (next (some session)).Abides session) (hnone : (next none).Settles) :
    (Program.act .getSession next).Settles := by
  refine ⟨nofun, fun answer _ => ?_⟩
  cases answer with
  | none =>
    refine Along.mono hnone fun deeds stand h session hmem => ?_
    obtain ⟨hstand, htaken⟩ := h session ((List.mem_cons.1 hmem).resolve_left nofun)
    exact ⟨hstand, htaken.cons nofun⟩
  | some given =>
    refine (hgiven given).course.mono fun deeds stand ⟨habides, htaken, hunasked⟩ session hmem => ?_
    rcases List.mem_cons.1 hmem with hfirst | hrest
    · cases hfirst
      exact ⟨habides, htaken.cons nofun⟩
    · exact absurd rfl (hunasked _ hrest)

/-- A failure settles, as it was given no session. -/
theorem settles_fail {failure : ε} : (Program.fail failure : Program ε α).Settles := nofun

/-- What settles does so with its failure told in other terms. -/
theorem Settles.mapFailure {p : Program δ α} (h : p.Settles) (f : δ → ε) : (p.mapFailure f).Settles :=
  along_mapFailure.2 (Along.mono h fun _ _ h session hgiven => (h session hgiven).imp (·.told f id) id)

/-- What settles does so with its abortions told as failures. -/
theorem Settles.sheltered (h : p.Settles) (f : String → ε) : (p.sheltered f).Settles :=
  along_sheltered.2 (Along.mono h fun _ _ h session hgiven => (h session hgiven).imp (·.sheltered f) id)

/-- What settles does so with its result made into an answer. -/
theorem Settles.map {p : Program ε β} (h : p.Settles) (answer : β → α) :
    (p >>= fun result => pure (answer result)).Settles :=
  along_map.2 (Along.mono h fun _ _ h session hgiven => (h session hgiven).imp (·.told id answer) id)

/-- What settles does so as a job. -/
theorem Settles.job (h : p.Settles) (failure : ε → Failure) (answer : α → Answer) : (p.job failure answer).Settles :=
  (h.mapFailure failure).map answer

end Program

namespace Channel

open Program

variable {session : Session}

/-- An action at which nobody waits may be taken by what stays with a session. -/
theorem abides_look {action : Action} {next : action.Reply → Program ε α} (hasks : action ≠ .getSession)
    (hpause : ∀ deadline, action ≠ .pause deadline) (hpost : action.post? = none)
    (hnext : ∀ answer, (next answer).Abides session) : (Program.act action next).Abides session :=
  ⟨⟨hasks, hpause, by simp [hpost]⟩, fun answer _ => hnext answer⟩

/-- A result ends well. -/
theorem abides_done {result : α} : (Program.done result : Program ε α).Abides session := ⟨result, rfl⟩

/-- To take from the session is to stay with it. -/
theorem abides_pop {deadline : Option Duration.Instant} {next : Option Item → Program ε α}
    (hnext : ∀ answer, (next answer).Abides session) : (Program.act (.pop session deadline) next).Abides session :=
  ⟨⟨nofun, nofun, by simp [Action.post?]⟩, fun answer _ => hnext answer⟩

/-- A read stays with its session, however many elements it waits for. -/
theorem abides_takeWaiting (timeout : Option Duration) (deadline : Option Duration.Instant) (left : Nat)
    (taken : List UInt8) : (takeWaiting session timeout deadline left taken).Abides session := by
  induction left generalizing taken with
  | zero => exact abides_done
  | succ left ih =>
    refine abides_look nofun nofun rfl fun isOpen => ?_
    cases isOpen with
    | false => exact abides_done
    | true =>
      refine abides_look nofun nofun rfl fun now => abides_pop fun item => ?_
      rcases item with _ | (byte | _)
      · exact abides_done
      · cases deadline with
        | none => exact ih (byte :: taken)
        | some instant =>
          refine abides_look nofun nofun rfl fun later => ?_
          dsimp only [Program.bind, pure_eq_done]
          split
          · exact abides_done
          · exact ih (byte :: taken)
      · exact abides_done

/-- A read of what is there stays with its session. -/
theorem abides_takeQueued (left : Nat) (taken : List UInt8) :
    (takeQueued session left taken).Abides session := by
  induction left generalizing taken with
  | zero => exact abides_done
  | succ left ih =>
    refine abides_look nofun nofun rfl fun now => abides_pop fun item => ?_
    rcases item with _ | (byte | _)
    · exact abides_done
    · exact ih (byte :: taken)
    · exact abides_done

/-- What stays with the session of an open channel settles. -/
theorem settles_liveSession {rest : Session → Operation α} (hrest : ∀ session, (rest session).Abides session) :
    (liveSession >>= rest).Settles := by
  refine settles_act nofun rfl fun isOpen => ?_
  cases isOpen with
  | false => exact settles_fail
  | true => exact settles_getSession hrest settles_fail

/-- A read stays with the session it is given. -/
theorem settles_read (size : Nat) : (read size).Settles :=
  settles_liveSession fun _ => abides_look nofun nofun rfl fun _ => abides_look nofun nofun rfl fun _ =>
    abides_takeWaiting _ _ size []

/-- A read of what is there stays with the session it is given. -/
theorem settles_readAvailable (limit : Nat) : (readAvailable limit).Settles :=
  settles_liveSession fun _ => abides_takeQueued limit []

end Channel

/-- Bytes are told apart in a session as they are without it. -/
theorem bytesIn_inj {session : Session} {bytes other : List UInt8} :
    bytesIn session bytes = bytesIn session other ↔ bytes = other :=
  List.map_inj_right fun _ _ h => by cases h; rfl

/-- Bytes, perhaps with the mark of the end after them, go on with what follows their first ones. -/
theorem exists_more_of_append {session : Session} {got bytes : List UInt8} {after mark : List (Session × Item)}
    (hall : bytesIn session got ++ after = bytesIn session bytes ++ mark)
    (hmark : mark = [] ∨ mark = [(session, .endOfStream)]) :
    ∃ more, bytes = got ++ more ∧ after = bytesIn session more ++ mark := by
  have hshort : ∀ rest, bytesIn session got = bytesIn session bytes ++ rest → mark = rest ++ after → rest = [] := by
    rintro (_ | ⟨first, rest⟩) hgot hrest
    · rfl
    · rcases hmark with rfl | rfl
      · cases hrest
      · obtain ⟨rfl, hnone⟩ := List.cons.inj hrest
        obtain ⟨rfl, -⟩ := List.append_eq_nil_iff.1 hnone.symm
        exact absurd hgot bytesIn_ne_mark
  rcases List.append_eq_append_iff.1 hall with ⟨rest, hbytes, rfl⟩ | ⟨rest, hgot, hrest⟩
  · obtain ⟨first, more, rfl, hfirst, rfl⟩ := List.map_eq_append_iff.1 hbytes
    exact ⟨more, by rw [bytesIn_inj.1 hfirst], rfl⟩
  · obtain rfl := hshort rest hgot hrest
    rw [List.append_nil] at hgot
    exact ⟨[], by rw [bytesIn_inj.1 hgot, List.append_nil], by simpa [bytesIn] using hrest.symm⟩

/-- What was gathered, and taken in one session, was gathered there. -/
theorem Gathered.at {session place : Session} {size : Nat} {tells : List UInt8 → α → Prop}
    {got : List (Session × Item)} {stand : Stand ε α} (h : Gathered place size tells got stand)
    (htaken : ∀ taken ∈ got, taken.1 = session) : Gathered session size tells got stand := by
  have hbytes : ∀ bytes, (∀ taken ∈ bytesIn place bytes, taken.1 = session) →
      bytesIn place bytes = bytesIn session bytes := by
    intro bytes hall
    refine List.map_congr_left fun byte hbyte => ?_
    rw [show place = session from hall _ (List.mem_map.2 ⟨byte, hbyte, rfl⟩)]
  cases h with
  | midst bytes => exact hbytes bytes htaken ▸ .midst bytes
  | answered bytes mark hsize hmark htells =>
    obtain ⟨hfirst, hlast⟩ := List.forall_mem_append.1 htaken
    rw [hbytes bytes hfirst]
    refine .answered bytes mark hsize (hmark.imp id fun h => ?_) htells
    subst h
    rw [show place = session from hlast _ List.mem_cons_self]
  | failed => exact .failed

namespace Operation.Reads

variable {operation : Operation} {session : Session}

/-- A read stays with the session that it was given, and ends well. -/
theorem settles (h : operation.Reads) : operation.job.Settles := by
  cases h with
  | channel size | adapter size => exact (Channel.settles_read size).job ..
  | one => exact ((Channel.settles_read 1).map _).job ..
  | available limit => exact (Channel.settles_readAvailable limit).job ..
  | background size => exact (((Channel.settles_read size).mapFailure _).sheltered _).job ..

/-- What a read has gathered, it has gathered in the session that it was given. -/
theorem gathered (h : operation.Reads) {deeds : List Deed} {q : Job} (hleads : operation.job.Leads deeds q)
    (hgiven : ⟨.getSession, some session⟩ ∈ deeds) : q.stand.Abides session ∧ ∃ size,
      Gathered session size (fun bytes answer => answer.bytesRead = bytes) (deeds.flatMap Deed.taken) q.stand := by
  obtain ⟨place, size, hgathered⟩ := h.gathers.leads hleads
  obtain ⟨habides, htaken⟩ := h.settles.leads hleads (fun _ _ => trivial) session hgiven
  exact ⟨habides, size, hgathered.at htaken⟩

/-- A read that was seen waiting answers in the end what it had taken before and what it has taken since. Until
it ends it has not taken the mark of the end. -/
theorem goes_on (h : operation.Reads) {before after : List Deed} {action : Action} {next : action.Reply → Job}
    {q : Job} (hgiven : ⟨.getSession, some session⟩ ∈ before) (hbefore : operation.job.Leads before (.act action next))
    (hafter : operation.job.Leads (before ++ after) q) :
    (∃ answer more mark, q.stand = .ended (.ok answer) ∧
      before.flatMap Deed.taken ++ bytesIn session more = bytesIn session answer.bytesRead ∧
      after.flatMap Deed.taken = bytesIn session more ++ mark ∧ (mark = [] ∨ mark = [(session, .endOfStream)])) ∨
    ∃ action, q.stand = .before action ∧ q.stand.Abides session ∧
      (session, .endOfStream) ∉ after.flatMap Deed.taken := by
  obtain ⟨-, _, hgot⟩ := h.gathered hbefore hgiven
  obtain ⟨habides, _, hall⟩ := h.gathered hafter (List.mem_append_left _ hgiven)
  rw [List.flatMap_append] at hall
  generalize before.flatMap Deed.taken = had at hgot hall ⊢
  generalize after.flatMap Deed.taken = since at hall ⊢
  cases hgot with
  | midst got =>
    generalize hlist : bytesIn session got ++ since = list at hall
    generalize q.stand = stand at hall habides ⊢
    cases hall with
    | @midst bytes action =>
      refine .inr ⟨action, rfl, habides, fun hmem => ?_⟩
      have hmark : (session, Item.endOfStream) ∈ bytesIn session bytes := hlist ▸ List.mem_append_right _ hmem
      simp [bytesIn] at hmark
    | @answered bytes mark answer hsize hmark htells =>
      obtain ⟨more, rfl, rfl⟩ := exists_more_of_append hlist hmark
      exact .inl ⟨answer, more, mark, rfl, by simp [bytesIn, htells], rfl, hmark⟩
    | failed =>
      obtain ⟨_, hok⟩ := habides
      cases hok

end Operation.Reads

end Loopback
