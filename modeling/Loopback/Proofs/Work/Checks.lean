import Loopback.Proofs.Work.Order

/-!
# What is checked before a channel is opened

Only an opening sets the channel open, and before it does so it has seen a baud rate that is not zero and a
capacity that fits the memory. So every operation keeps to any rule that asks for no more than that.
-/

namespace Loopback

/-- What a task has seen that may set the channel open: settings and traits that are in order. -/
structure Checked (seen : List Deed) : Prop where
  rate : ∃ settings, ⟨.getSettings, settings⟩ ∈ seen ∧ settings.baudRate ≠ 0
  room : ∃ traits, ⟨.getTraits, traits⟩ ∈ seen ∧ Queue.fitsMemory traits.capacity = true

/-- The channel is set open only after these checks. -/
def checking : Rule := fun seen action => action = .setOpen true → Checked seen

namespace Channel

open Program

variable {ε α : Type} {seen : List Deed}

/-- What does not open the channel never sets it open. -/
theorem checking_of_not_opens {kind : Kind} (hkind : ¬kind.Opens) {p : Program ε α} (h : p.Obeys kind.rule seen) :
    p.Obeys checking seen := by
  refine h.mono fun seen action hrule hopens => ?_
  subst hopens
  exact absurd hrule.1 hkind

/-- A check of the settings that succeeds has seen a baud rate. -/
theorem seen_of_reconfigure {deeds : List Deed} {result : Unit} (h : reconfigure.Leads deeds (.done result)) :
    ∃ settings, ⟨.getSettings, settings⟩ ∈ deeds ∧ settings.baudRate ≠ 0 := by
  cases h with
  | @act _ _ settings _ _ h =>
    refine ⟨settings, List.mem_cons_self, fun hzero => ?_⟩
    change Leads (Program.ofExcept (checkBaudRate settings.baudRate.toNat) >>= _) _ _ at h
    rw [hzero] at h
    cases h

/-- An opening sets the channel open only after it has checked the settings and the room. -/
theorem checking_openPort : openPort.Obeys checking seen := by
  refine Obeys.exclusively (fun seen => obeys_act.2 ⟨nofun, fun isOpen => ?_⟩) nofun fun _ => nofun
  cases isOpen with
  | true => exact obeys_fail
  | false =>
    refine obeys_act.2 ⟨nofun, fun _ => obeys_act.2 ⟨nofun, fun address => ?_⟩⟩
    cases address with
    | none => exact obeys_fail
    | some text =>
      refine obeys_ofExcept.bind fun address seen => obeys_act.2 ⟨nofun, fun _ => ?_⟩
      refine obeys_bind (p := reconfigure) (checking_of_not_opens Kind.plain_looking.1 obeys_reconfigure)
        fun deeds _ hchecked => obeys_act.2 ⟨nofun, fun traits => ?_⟩
      obtain ⟨settings, hseen, hbaud⟩ := seen_of_reconfigure hchecked
      dsimp only [Program.bind]
      split
      next hfits =>
        refine obeys_act.2 ⟨nofun, fun _ => obeys_act.2 ⟨fun _ => ?_, fun _ => ?_⟩⟩
        · exact ⟨⟨settings, by simp [hseen], hbaud⟩, ⟨traits, by simp, hfits⟩⟩
        · exact checking_of_not_opens Kind.plain_resetting.1 (obeys_afterOpening (.inl rfl) _)
      next => exact obeys_abort

/-- A closing does not set the channel open. -/
theorem checking_closePort : (closePort : Program ε Unit).Obeys checking seen :=
  checking_of_not_opens (show ¬Kind.Opens .closing by simp [Kind.Opens]) (obeys_closePort (.inl rfl))

/-- A moving sets the channel open as an opening does. -/
theorem checking_setAddress (address : Option String) : (setAddress address).Obeys checking seen := by
  refine obeys_act.2 ⟨nofun, fun wasOpen => ?_⟩
  cases wasOpen with
  | true => exact checking_closePort.bind fun _ _ => obeys_act.2 ⟨nofun, fun _ => checking_openPort⟩
  | false => exact obeys_perform nofun

end Channel

/-- Every operation checks the settings and the capacity before it sets the channel open. -/
theorem Operation.checking (operation : Operation) : operation.job.Obeys checking [] := by
  rcases operation.plain_or with hplain | rfl | rfl | ⟨address, rfl⟩ | rfl
  · exact Channel.checking_of_not_opens hplain.1 (operation.obeys [])
  · exact Channel.checking_openPort.job ..
  · exact Channel.checking_closePort.job ..
  · exact (Channel.checking_setAddress address).job ..
  · exact ((Channel.checking_closePort.mapFailure _).sheltered _).job ..

end Loopback
