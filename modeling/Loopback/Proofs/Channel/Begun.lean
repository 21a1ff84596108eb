import Loopback.Proofs.Channel.Exclusion

/-!
# An opening that has begun a session succeeds

While an opening keeps others out, whatever it asks about the channel is answered in keeping with what
it has made of it: the channel is open, and has a session. Nothing else could make it fail once its
session has begun.
-/

namespace Loopback

/-- Whether an action begins a session. -/
def Action.begins : Action → Bool
  | .newSession => true
  | _ => false

/-- Whether a task has begun a session. -/
def begun (deeds : List Deed) : Bool :=
  deeds.any fun deed => deed.action.begins

/-- Whether a session was begun after one deed more. -/
@[simp] theorem begun_concat (deeds : List Deed) (deed : Deed) :
    begun (deeds ++ [deed]) = (begun deeds || deed.action.begins) := by
  simp [begun]

/-- That a task has begun a session and opened the channel, and still keeps others out. -/
structure Begun (deeds : List Deed) : Prop where
  session : begun deeds = true
  made : made deeds = some true

/-- What is answered about an open channel. -/
def Deed.steady : Deed → Prop
  | ⟨.getOpen, isOpen⟩ => isOpen = true
  | ⟨.getSession, session⟩ => session ≠ none
  | _ => True

/-- Once a task has begun a session, it is answered so until it lets others in. -/
def Deed.InKeeping (seen : List Deed) (deed : Deed) : Prop :=
  Begun seen → deed.steady

namespace Program

variable {ε δ α β : Type} {seen : List Deed}

/-- A program that succeeds if it has begun a session, as long as it is answered in keeping with what it
did. -/
def SeesThrough (seen : List Deed) : Program ε α → Prop
  | .act action next => ∀ answer, Deed.InKeeping seen ⟨action, answer⟩ →
    SeesThrough (seen ++ [⟨action, answer⟩]) (next answer)
  | .done _ => True
  | .fail _ => begun seen = false
  | .abort _ => begun seen = false

/-- What deeds leave of such a program still succeeds if it has begun a session. -/
theorem SeesThrough.leads {p q : Program ε α} {deeds : List Deed} (h : p.SeesThrough seen)
    (hleads : p.Leads deeds q)
    (hkeeping : ∀ before deed after, deeds = before ++ deed :: after → deed.InKeeping (seen ++ before)) :
    q.SeesThrough (seen ++ deeds) := by
  induction hleads generalizing seen with
  | refl p => rwa [List.append_nil]
  | @act action next answer deeds q _ ih =>
    have hnext := h answer (by simpa using hkeeping [] _ deeds rfl)
    rw [List.append_cons]
    refine ih hnext fun before deed after hdeeds => ?_
    simpa using hkeeping (⟨action, answer⟩ :: before) deed after (by rw [hdeeds, List.cons_append])

/-- No other action begins a session. -/
theorem seesThrough_act {action : Action} {next : action.Reply → Program ε α}
    (haction : action.begins = false) (hseen : begun seen = false)
    (hnext : ∀ answer more, begun more = false → (next answer).SeesThrough more) :
    (Program.act action next).SeesThrough seen := by
  refine fun answer _ => hnext answer _ ?_
  rw [begun_concat, hseen, haction]
  rfl

/-- While an opening keeps others out, it is answered as it needs. -/
theorem seesThrough_begun {action : Action} {next : action.Reply → Program ε α}
    (hstays : ∀ answer, Deed.making (some true) ⟨action, answer⟩ = some true) (hseen : Begun seen)
    (hnext : ∀ answer more, Begun more → Deed.steady ⟨action, answer⟩ → (next answer).SeesThrough more) :
    (Program.act action next).SeesThrough seen := by
  refine fun answer hkeeping => hnext answer _ ⟨?_, ?_⟩ (hkeeping hseen)
  · rw [begun_concat, hseen.session]
    rfl
  · rw [made_concat, hseen.made]
    exact hstays answer

/-- A program that begins no session may do so in what follows it. -/
theorem seesThrough_bind {p : Program ε α} {rest : α → Program ε β} {more : List Deed}
    (hp : p.Obeys (.always fun action => action.begins = false) seen) (hmore : begun more = false)
    (hrest : ∀ result later, begun later = false → (rest result).SeesThrough later) :
    (p >>= rest).SeesThrough more := by
  induction p generalizing seen more with
  | act action next ih =>
    obtain ⟨haction, hnext⟩ := obeys_act.1 hp
    exact seesThrough_act haction hmore fun answer _ hlater => ih answer (hnext answer) hlater
  | done result => exact hrest result more hmore
  | fail | abort => exact hmore

/-- A program that begins no session has nothing to see through. -/
theorem seesThrough_of_obeys {p : Program ε α} {more : List Deed}
    (hp : p.Obeys (.always fun action => action.begins = false) seen) (hmore : begun more = false) :
    p.SeesThrough more := by
  induction p generalizing seen more with
  | act action next ih =>
    obtain ⟨haction, hnext⟩ := obeys_act.1 hp
    exact seesThrough_act haction hmore fun answer _ hlater => ih answer (hnext answer) hlater
  | done result => trivial
  | fail | abort => exact hmore

/-- Only openings begin sessions. -/
theorem obeys_of_not_opens {kind : Kind} (hkind : ¬kind.Opens) {p : Program ε α}
    (h : p.Obeys kind.rule seen) : p.Obeys (.always fun action => action.begins = false) seen := by
  refine h.mono fun seen action hrule => ?_
  cases action with
  | newSession => exact absurd hrule.1 hkind
  | _ => rfl

/-- What sees its opening through does so with its failure told in other terms. -/
theorem SeesThrough.mapFailure {p : Program δ α} (h : p.SeesThrough seen) (f : δ → ε) :
    (p.mapFailure f).SeesThrough seen := by
  induction p generalizing seen with
  | act action next ih => exact fun answer hkeeping => ih answer (h answer hkeeping)
  | _ => exact h

/-- What sees its opening through does so as a job. -/
theorem SeesThrough.job {p : Program ε α} (h : p.SeesThrough seen) (failure : ε → Failure)
    (answer : α → Answer) : (p.job failure answer).SeesThrough seen := by
  induction p generalizing seen with
  | act action next ih => exact fun answer hkeeping => ih answer (h answer hkeeping)
  | _ => exact h

/-- Letting others in does not make a program fail. -/
theorem SeesThrough.thenAlways {p : Program ε α} (h : p.SeesThrough seen) :
    (p.thenAlways .leaveLifecycle).SeesThrough seen := by
  induction p generalizing seen with
  | act action next ih => exact fun answer hkeeping => ih answer (h answer hkeeping)
  | done => exact fun _ _ => trivial
  | _ => exact fun _ _ => (begun_concat ..).trans (by rw [h]; rfl)

end Program

namespace Channel

open Program

variable {seen : List Deed}

/-- Once a session has begun, the lines are set low and the buffers are emptied without a failure. -/
theorem seesThrough_afterOpening (event : Event) (hseen : Begun seen) :
    (do
      setDataTerminalReady false
      setRequestToSend false
      resetInput
      resetOutput
      .perform (.report event) : Operation Unit).SeesThrough seen := by
  have hreset : ∀ (message : String) (rest : Operation Unit) (more : List Deed),
      (∀ later, Begun later → rest.SeesThrough later) → Begun more →
      ((do
        let session ← liveSession
        Program.note .info message
        let _ ← QueueCall.clear session
        pure () : Operation Unit) >>= fun _ => rest).SeesThrough more := by
    intro message rest more hrest hmore
    refine seesThrough_begun (fun _ => rfl) hmore fun isOpen more hmore hopen => ?_
    obtain rfl : isOpen = true := hopen
    refine seesThrough_begun (fun _ => rfl) hmore fun current more hmore hcurrent => ?_
    cases current with
    | none => exact absurd rfl hcurrent
    | some session =>
      refine seesThrough_begun (fun _ => rfl) hmore fun _ more hmore _ => ?_
      exact seesThrough_begun (fun _ => rfl) hmore fun _ more hmore _ => hrest more hmore
  refine seesThrough_begun (fun _ => rfl) hseen fun _ seen hseen _ => ?_
  refine seesThrough_begun (fun _ => rfl) hseen fun _ seen hseen _ => ?_
  refine seesThrough_begun (fun _ => rfl) hseen fun _ seen hseen _ => ?_
  refine seesThrough_begun (fun _ => rfl) hseen fun _ seen hseen _ => ?_
  refine hreset _ _ seen (fun seen hseen => hreset _ _ seen (fun seen hseen => ?_) hseen) hseen
  exact seesThrough_begun (fun _ => rfl) hseen fun _ _ _ _ => trivial

/-- What can make an opening fail comes before its session begins. -/
theorem seesThrough_openPort (hseen : begun seen = false) : openPort.SeesThrough seen := by
  refine seesThrough_act rfl hseen fun _ seen hseen => SeesThrough.thenAlways ?_
  refine seesThrough_act rfl hseen fun isOpen seen hseen => ?_
  cases isOpen with
  | true => exact hseen
  | false =>
    refine seesThrough_act rfl hseen fun _ seen hseen => ?_
    refine seesThrough_act rfl hseen fun address seen hseen => ?_
    cases address with
    | none => exact hseen
    | some text =>
      dsimp only [Program.bind]
      cases (Address.parse text).mapError PortFailure.ofAddress with
      | error failure => exact hseen
      | ok address =>
        refine seesThrough_act rfl hseen fun _ seen hseen => ?_
        have hchecking : reconfigure.Obeys (.always fun action => action.begins = false) [] :=
          obeys_of_not_opens Kind.plain_looking.1 obeys_reconfigure
        refine seesThrough_bind (p := reconfigure) hchecking hseen fun _ seen hseen => ?_
        refine seesThrough_act rfl hseen fun traits seen hseen => ?_
        dsimp only [Program.bind]
        split
        · refine fun _ _ _ _ => seesThrough_afterOpening _ ⟨?_, made_concat ..⟩
          simp [begun, Action.begins]
        · exact hseen

/-- A moving that opens the channel sees that through. -/
theorem seesThrough_setAddress (address : Option String) (hseen : begun seen = false) :
    (setAddress address).SeesThrough seen := by
  refine seesThrough_act rfl hseen fun wasOpen seen hseen => ?_
  cases wasOpen with
  | true =>
    have hclosing : (closePort : Operation Unit).Obeys (.always fun action => action.begins = false) [] :=
      obeys_of_not_opens (by simp [Kind.Opens]) (obeys_closePort (.inl rfl))
    refine seesThrough_bind (p := closePort) hclosing hseen fun _ seen hseen => ?_
    exact seesThrough_act rfl hseen fun _ seen hseen => seesThrough_openPort hseen
  | false => exact seesThrough_act rfl hseen fun _ _ _ => trivial

end Channel

/-- An operation that has begun a session does not fail. -/
theorem Operation.seesThrough (operation : Operation) : operation.job.SeesThrough [] := by
  have hother : ∀ operation : Operation, ¬operation.kind.Opens → operation.job.SeesThrough [] :=
    fun operation hkind =>
      Program.seesThrough_of_obeys (Program.obeys_of_not_opens hkind (operation.obeys [])) rfl
  rcases operation.plain_or with hplain | rfl | rfl | ⟨address, rfl⟩ | rfl
  · exact hother _ hplain.1
  · exact (Channel.seesThrough_openPort rfl).job _ _
  · exact hother _ (by simp [Kind.Opens, Operation.kind, ChannelOperation.kind])
  · exact (Channel.seesThrough_setAddress address rfl).job _ _
  · exact hother _ (by simp [Kind.Opens, Operation.kind, BackgroundOperation.kind])

end Loopback
