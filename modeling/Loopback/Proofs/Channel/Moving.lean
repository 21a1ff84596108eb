import Loopback.Proofs.Channel.Decision
import Loopback.Proofs.Channel.Keeping

/-!
# What moving a channel makes of it

A closed channel is only given its new address. An open one is closed before and opened after, so what comes
of it is decided by the new address alone: its settings and its capacity were in order when it was opened
before, and stay so. A channel that cannot be opened at the new address stays closed there.
-/

namespace Loopback

open Program

namespace Channel

variable {α : Type} {touched : Part → Prop} {c : Channel} {ends : Outcome PortFailure α → Channel → Prop}
  {rest : Unit → Operation α}

/-- An action that only looks at the channel, or reports something, leaves it as it is known. -/
theorem makes_look {ε : Type} {action : Action} {next : action.Reply → Program ε α}
    {ends : Outcome ε α → Channel → Prop} (h : ∀ task w, c.Kept touched w.channel → ∃ answer w' call,
      action.run task w = .reply answer w' call ∧ w'.channel = w.channel ∧ (next answer).Makes touched ends c) :
    (Program.act action next).Makes touched ends c := by
  refine makes_act fun task w hkept => ?_
  obtain ⟨answer, w', call, hrun, hsame, hnext⟩ := h task w hkept
  exact ⟨answer, w', call, c, hrun, hsame ▸ hkept, hnext⟩

/-- A note leaves the channel as it is. -/
theorem makes_note {ε : Type} {severity : Severity} {message : String} {next : Unit → Program ε α}
    {ends : Outcome ε α → Channel → Prop} (h : (next ()).Makes touched ends c) :
    (Program.act (.note severity message) next).Makes touched ends c :=
  makes_look fun _ _ _ => ⟨(), _, none, rfl, rfl, h⟩

/-- A report leaves the channel as it is. -/
theorem makes_report {ε : Type} {event : Event} {next : Unit → Program ε α}
    {ends : Outcome ε α → Channel → Prop} (h : (next ()).Makes touched ends c) :
    (Program.act (.report event) next).Makes touched ends c :=
  makes_look fun _ _ _ => ⟨(), _, none, rfl, rfl, h⟩

/-- What is asked about the channel is answered as it is known. -/
theorem makes_getOpen {ε : Type} {isOpen : Bool} {next : Bool → Program ε α} {ends : Outcome ε α → Channel → Prop}
    (hopen : c.isOpen = isOpen) (h : (next isOpen).Makes touched ends c) :
    (Program.act .getOpen next).Makes touched ends c :=
  makes_look fun _ w hkept => ⟨w.channel.isOpen, w, none, rfl, rfl, hkept.isOpen ▸ hopen ▸ h⟩

/-- To ask for the session leaves the channel as it is. -/
theorem makes_getSession {ε : Type} {given : Option Session} {next : Option Session → Program ε α}
    {ends : Outcome ε α → Channel → Prop} (hsession : c.session? = given) (h : (next given).Makes touched ends c) :
    (Program.act .getSession next).Makes touched ends c :=
  makes_look fun _ w hkept => ⟨w.channel.session?, w, none, rfl, rfl, hkept.session? ▸ hsession ▸ h⟩

/-- To ask for the address leaves the channel as it is. -/
theorem makes_getAddress {ε : Type} {address : Option String} {next : Option String → Program ε α}
    {ends : Outcome ε α → Channel → Prop} (haddress : c.address = address) (h : (next address).Makes touched ends c) :
    (Program.act .getAddress next).Makes touched ends c :=
  makes_look fun _ w hkept => ⟨w.channel.address, w, none, rfl, rfl, hkept.address ▸ haddress ▸ h⟩

/-- To ask for the traits leaves the channel as it is. -/
theorem makes_getTraits {ε : Type} {next : Traits → Program ε α} {ends : Outcome ε α → Channel → Prop}
    (h : (next c.traits).Makes touched ends c) : (Program.act .getTraits next).Makes touched ends c :=
  makes_look fun _ w hkept => ⟨w.channel.traits, w, none, rfl, rfl, hkept.traits ▸ h⟩

/-- Opened, closed or moved, the channel is so from then on. -/
theorem makes_setOpen {ε : Type} {isOpen : Bool} {next : Unit → Program ε α} {ends : Outcome ε α → Channel → Prop}
    (h : (next ()).Makes touched ends { c with isOpen }) : (Program.act (.setOpen isOpen) next).Makes touched ends c :=
  makes_act fun _ _ hkept => ⟨(), _, none, _, rfl, hkept.update id (fun _ => isOpen) id id, h⟩

/-- To set the address changes that alone. -/
theorem makes_perform_setAddress {ε : Type} {address : Option String} {next : Unit → Program ε α}
    {ends : Outcome ε α → Channel → Prop} (h : (next ()).Makes touched ends { c with address }) :
    (Program.act (.setAddress address) next).Makes touched ends c :=
  makes_act fun _ _ hkept => ⟨(), _, none, _, rfl, hkept.update (fun _ => address) id id id, h⟩

/-- To drop the diagnostics changes these alone. -/
theorem makes_dropDiagnostics {ε : Type} {next : Unit → Program ε α} {ends : Outcome ε α → Channel → Prop}
    (h : (next ()).Makes touched ends { c with diagnostics := none }) :
    (Program.act .dropDiagnostics next).Makes touched ends c :=
  makes_act fun _ _ hkept => ⟨(), _, none, _, rfl, hkept.update id id (fun _ => none) id, h⟩

/-- To attach diagnostics changes these alone. -/
theorem makes_attachDiagnostics {ε : Type} {level : Option Severity} {next : Unit → Program ε α}
    {ends : Outcome ε α → Channel → Prop} (h : (next ()).Makes touched ends { c with diagnostics := level }) :
    (Program.act (.attachDiagnostics level) next).Makes touched ends c :=
  makes_act fun _ _ hkept => ⟨(), _, none, _, rfl, hkept.update id id (fun _ => level) id, h⟩

/-- To set a line changes that alone. -/
theorem makes_setLine {ε : Type} {line : Line} {level : Bool} {next : Unit → Program ε α}
    {ends : Outcome ε α → Channel → Prop} (h : (next ()).Makes touched ends (c.setLine line level)) :
    (Program.act (.setLine line level) next).Makes touched ends c :=
  makes_act fun _ _ hkept => ⟨(), _, none, _, rfl, hkept.setLine line level, h⟩

/-- What follows a check of the settings meets the channel as it was. -/
theorem makes_reconfigure_bind (hbaud : c.settings.baudRate ≠ 0) (hrest : (rest ()).Makes touched ends c) :
    (reconfigure >>= rest).Makes touched ends c := by
  refine makes_look fun _ w hkept => ⟨w.channel.settings, w, none, rfl, rfl, ?_⟩
  obtain ⟨rate, hrate⟩ := checkBaudRate_isOk.2
    ⟨baudRate_pos.2 (hkept.baudRate hbaud), Nat.le_of_lt_succ w.channel.settings.baudRate.toNat_lt⟩
  dsimp only [Program.bind]
  rw [hrate]
  exact makes_note hrest

/-- Dropping what is queued leaves a channel as it was whose queue was just created. -/
theorem makes_reset_bind {queues : List Queue} {capacity : Nat} (message : String) (hopen : c.isOpen = true)
    (hqueues : c.queues = queues ++ [Queue.create capacity]) (hrest : (rest ()).Makes touched ends c) :
    ((do
      let session ← liveSession
      Program.note .info message
      let _ ← QueueCall.clear session
      pure () : Operation Unit) >>= rest).Makes touched ends c := by
  obtain ⟨hsession, hqueue⟩ := session?_concat hqueues
  refine makes_getOpen hopen (makes_getSession hsession (makes_note (makes_act fun _ w hkept => ?_)))
  obtain ⟨q, hq⟩ : ∃ q, w.channel.queues[queues.length]? = some q := by
    refine ⟨_, List.getElem?_eq_getElem ?_⟩
    rw [hkept.sessions]
    exact (List.getElem?_eq_some_iff.1 hqueue).1
  refine ⟨q.clear.1, w.withChannel (w.channel.setQueue queues.length q.clear.2), some (.every queues.length .room), _,
    by simp only [Action.run, Action.atQueue, hq],
    hkept.setQueue hqueue hq (congrArg fun q : Queue => q.clear.2) (by simp), ?_⟩
  have hset : c.queues.set queues.length (Queue.create capacity).clear.2 = c.queues := by
    rw [hqueues, show (Queue.create capacity).clear.2 = Queue.create capacity from rfl]
    simp
  rw [setQueue, hset]
  exact hrest

/-- Once a session has begun, nothing keeps the channel from being opened. -/
theorem makes_beginSession (event : Event) {ends : Outcome PortFailure Unit → Channel → Prop}
    (h : ends (.ok ()) { c with
      isOpen := true
      queues := c.queues ++ [Queue.create c.traits.capacity]
      requestToSend := false
      dataTerminalReady := false }) : (beginSession event).Makes touched ends c := by
  refine makes_act fun _ w hkept => ⟨(), _, none, { c with queues := c.queues ++ [Queue.create c.traits.capacity] },
    rfl, hkept.traits ▸ hkept.newSession _, makes_setOpen ?_⟩
  refine makes_setLine (makes_note (makes_setLine (makes_note ?_)))
  refine makes_reset_bind _ rfl rfl (makes_reset_bind _ rfl rfl (makes_report ?_))
  exact makes_done h

/-- Opening a closed channel with others kept out is decided as it would be alone. -/
theorem makes_openExclusively (hclosed : c.isOpen = false) (hbaud : c.settings.baudRate ≠ 0)
    (hfits : Queue.fitsMemory c.traits.capacity = true) : openExclusively.Makes touched (Decision c) c := by
  rw [openExclusively_eq]
  refine makes_getOpen hclosed (makes_dropDiagnostics ?_)
  obtain ⟨given, haddress⟩ : ∃ given, c.address = given := ⟨_, rfl⟩
  refine makes_getAddress haddress ?_
  cases given with
  | none => exact makes_fail (.notConfigured hclosed haddress)
  | some text =>
    dsimp only [Program.bind]
    cases hparse : Address.parse text with
    | error fault => exact makes_fail (.addressFormat hclosed haddress hparse)
    | ok address =>
      refine makes_attachDiagnostics (makes_reconfigure_bind hbaud (makes_getTraits ?_))
      dsimp only [Program.bind]
      rw [if_pos hfits]
      exact makes_beginSession _ (.opened hclosed haddress hparse hbaud)

/-- Opening a closed channel is decided as it would be alone. -/
theorem makes_openPort (hclosed : c.isOpen = false) (hbaud : c.settings.baudRate ≠ 0)
    (hfits : Queue.fitsMemory c.traits.capacity = true) (hfree : c.changing = false) :
    openPort.Makes touched (Decision c) c := by
  have hinner : openExclusively.Makes touched (Decision { c with changing := true }) { c with changing := true } :=
    makes_openExclusively hclosed hbaud hfits
  exact makes_exclusively hfree (hinner.mono fun outcome c' hdecision => hdecision.changing hfree)

/-- A channel once it was closed: the mark of the end follows what its current queue holds. -/
def shut (c : Channel) : Channel :=
  { c with
    isOpen := false
    queues := c.queues.modify (c.queues.length - 1) (·.append .endOfStream) }

/-- A channel of which the current queue is known is closed by putting the mark there. -/
theorem shut_eq {session : Session} {q : Queue} (hlength : c.queues.length = session + 1)
    (hq : c.queues[session]? = some q) :
    c.shut = { c with isOpen := false, queues := c.queues.set session (q.append .endOfStream) } := by
  have hqueues : c.queues.modify session (·.append .endOfStream) = c.queues.set session (q.append .endOfStream) := by
    refine List.ext_getElem? fun other => ?_
    rw [List.getElem?_modify]
    by_cases hother : session = other
    · subst hother
      rw [List.getElem?_set_self (hlength ▸ Nat.lt_succ_self session), hq]
      simp
    · simp [List.getElem?_set_ne hother, hother]
  rw [shut, hlength, Nat.add_sub_cancel, hqueues]

/-- The mark of the end is queued in the session of a channel that was closed. -/
theorem shut_markedIn {session : Session} (hsession : c.session? = some session) : c.shut.markedIn session := by
  have hlength := session?_eq_some.1 hsession
  have hlt : session < c.queues.length := hlength ▸ Nat.lt_succ_self session
  rw [shut_eq hlength (List.getElem?_eq_getElem hlt)]
  exact ⟨_, List.getElem?_set_self hlt, by simp⟩

/-- Closing an open channel shuts it. -/
theorem makes_closePort {ε : Type} {session : Session} (hopen : c.isOpen = true)
    (hsession : c.session? = some session) (hfree : c.changing = false) :
    (closePort : Program ε Unit).Makes touched (fun outcome c' => outcome = .ok () ∧ c' = c.shut) c := by
  refine makes_exclusively hfree (makes_getOpen hopen (makes_getSession hsession ?_))
  have hlength := session?_eq_some.1 hsession
  obtain ⟨q, hq⟩ : ∃ q, c.queues[session]? = some q :=
    ⟨_, List.getElem?_eq_getElem (hlength ▸ Nat.lt_succ_self session)⟩
  refine makes_act fun _ w hkept => ?_
  obtain ⟨q', hq'⟩ : ∃ q', w.channel.queues[session]? = some q' := by
    refine ⟨_, List.getElem?_eq_getElem ?_⟩
    rw [hkept.sessions]
    exact hlength ▸ Nat.lt_succ_self session
  refine ⟨(), w.withChannel (w.channel.setQueue session (q'.append .endOfStream)), some (.one session .item), _,
    by simp only [Action.run, Action.atQueue, hq'],
    hkept.setQueue hq hq' (congrArg fun q : Queue => q.append .endOfStream) (by simp), ?_⟩
  refine makes_setOpen (makes_note (makes_getTraits (makes_report ?_)))
  refine makes_look fun _ w _ => ⟨w.now, w, none, rfl, rfl, makes_pause (makes_done ⟨rfl, ?_⟩)⟩
  rw [shut_eq hlength hq, ← hfree]
  rfl

/-- What moving a channel to an address comes to, and the channel that it leaves. -/
inductive Moved (address : Option String) (c : Channel) : Outcome PortFailure Unit → Channel → Prop
  | closed (hclosed : c.isOpen = false) : Moved address c (.ok ()) { c with address }
  | notConfigured (hopen : c.isOpen = true) (haddress : address = none) :
      Moved address c (.failed .notConfigured) { c.shut with address, diagnostics := none }
  | addressFormat {text : String} {fault : Address.Fault} (hopen : c.isOpen = true) (haddress : address = some text)
      (hparse : Address.parse text = .error fault) :
      Moved address c (.failed (.ofAddress fault)) { c.shut with address, diagnostics := none }
  | reopened {text : String} {decoded : Address} (hopen : c.isOpen = true) (haddress : address = some text)
      (hparse : Address.parse text = .ok decoded) :
      Moved address c (.ok ()) { c.shut with
        address
        isOpen := true
        queues := c.shut.queues ++ [Queue.create c.traits.capacity]
        requestToSend := false
        dataTerminalReady := false
        diagnostics := decoded.logging }

/-- An open channel that was moved has the mark of the end in the session that was open. -/
theorem Moved.markedIn {address : Option String} {outcome : Outcome PortFailure Unit} {c' : Channel}
    (h : Moved address c outcome c') (hopen : c.isOpen = true) {session : Session}
    (hsession : c.session? = some session) : c'.markedIn session := by
  obtain ⟨q, hq, hmark⟩ := shut_markedIn hsession
  cases h with
  | closed hclosed => exact absurd (hopen.symm.trans hclosed) nofun
  | reopened => exact ⟨q, (List.getElem?_append_left (List.getElem?_eq_some_iff.1 hq).1).trans hq, hmark⟩
  | _ => exact ⟨q, hq, hmark⟩

/-- Moving a channel comes to what it would come to alone, but for what others touch meanwhile. -/
theorem makes_setAddress (address : Option String) (hfree : c.changing = false)
    (hinOrder : c.isOpen = true → c.settings.baudRate ≠ 0 ∧ Queue.fitsMemory c.traits.capacity = true ∧
      ∃ session, c.session? = some session) : (setAddress address).Makes touched (Moved address c) c := by
  rcases hopen : c.isOpen with _ | _
  · exact makes_getOpen hopen (makes_perform_setAddress (makes_done (.closed hopen)))
  · refine makes_getOpen hopen ?_
    obtain ⟨hbaud, hfits, session, hsession⟩ := hinOrder hopen
    refine (makes_closePort hopen hsession hfree).bind ?_ ?_ ?_
    · rintro _ _ ⟨-, rfl⟩
      have hopening : openPort.Makes touched (Decision { c.shut with address }) { c.shut with address } :=
        makes_openPort rfl hbaud hfits hfree
      refine makes_perform_setAddress (hopening.mono fun outcome c' hdecision => ?_)
      cases hdecision with
      | alreadyOpen hopened => cases hopened
      | notConfigured _ haddress => exact .notConfigured hopen haddress
      | addressFormat _ haddress hparse => exact .addressFormat hopen haddress hparse
      | invalidBaudRate _ _ _ hzero => exact absurd hzero hbaud
      | opened _ haddress hparse _ => exact .reopened hopen haddress hparse
    · rintro _ _ ⟨h, -⟩
      cases h
    · rintro _ _ ⟨h, -⟩
      cases h

/-- A closed channel that is moved to an address that can be decoded can be opened there. -/
theorem makes_setAddress_openPort {text : String} {decoded : Address} (hparse : Address.parse text = .ok decoded)
    (hclosed : c.isOpen = false) (hbaud : c.settings.baudRate ≠ 0)
    (hfits : Queue.fitsMemory c.traits.capacity = true) (hfree : c.changing = false) :
    (setAddress (some text) >>= fun _ => openPort).Makes touched
      (fun outcome c' => outcome = .ok () ∧ c'.isOpen = true ∧ c'.address = some text) c := by
  refine (makes_setAddress (some text) hfree fun hopen => absurd (hopen.symm.trans hclosed) nofun).bind ?_ ?_ ?_
  · intro _ c₁ hmoved
    cases hmoved with
    | closed =>
      have hopening : openPort.Makes touched (Decision { c with address := some text })
          { c with address := some text } := makes_openPort hclosed hbaud hfits hfree
      refine hopening.mono fun outcome c' hdecision => ?_
      cases hdecision with
      | alreadyOpen hopen => exact absurd (hopen.symm.trans hclosed) nofun
      | notConfigured _ haddress => cases haddress
      | addressFormat _ haddress hfault =>
        cases haddress
        cases hparse.symm.trans hfault
      | invalidBaudRate _ _ _ hzero => exact absurd hzero hbaud
      | opened => exact ⟨rfl, rfl, rfl⟩
    | reopened hopen => exact absurd (hopen.symm.trans hclosed) nofun
  · intro failure c₁ hmoved
    cases hmoved with
    | notConfigured hopen | addressFormat hopen => exact absurd (hopen.symm.trans hclosed) nofun
  · intro message c₁ hmoved
    cases hmoved

end Channel

end Loopback
