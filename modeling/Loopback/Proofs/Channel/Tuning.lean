import Loopback.Proofs.Channel.Endless
import Loopback.Proofs.Machine.Attaining
import Loopback.Proofs.Work.Order

/-!
# What calls make of the settings

Only a few operations change the settings of a channel, and each of them makes the same of them however it ends, as
long as no other does so meanwhile. A device has one timeout for reading, and the greatest duration stands for having
none; a baud rate of zero is refused with the settings unchanged. All other operations leave the settings alone, and
only giving the channel another address changes that.
-/

namespace Loopback

variable {ε α : Type}

/-! ## What is made of them -/

/-- The settings that an operation on the channel itself leaves. -/
def ChannelOperation.tuned (settings : PortSettings) : ChannelOperation → PortSettings
  | .applySettings given => if given.baudRate = 0 then settings else given
  | .setBaudRate rate => if rate = 0 then settings else { settings with baudRate := rate }
  | .setReadTimeout timeout => settings.withTimeout .reading timeout
  | .setWriteTimeout timeout => settings.withTimeout .writing timeout
  | .setDataBits value => { settings with dataBits := value }
  | .setParity value => { settings with parity := value }
  | .setStopBits value => { settings with stopBits := value }
  | .setFlowControl value => { settings with flowControl := value }
  | _ => settings

/-- The settings that an operation on a serial device leaves. -/
def DeviceOperation.tuned (settings : PortSettings) : DeviceOperation → PortSettings
  | .setBaudRate rate => if rate = 0 then settings else { settings with baudRate := rate }
  | .setTimeout duration => settings.withTimeout .reading (if duration = .max then none else some duration)
  | .setDataBits value => { settings with dataBits := value }
  | .setParity value => { settings with parity := value }
  | .setStopBits value => { settings with stopBits := value }
  | .setFlowControl value => { settings with flowControl := value }
  | _ => settings

/-- The settings that an operation leaves. -/
def Operation.tuned (settings : PortSettings) : Operation → PortSettings
  | .channel operation => operation.tuned settings
  | .device operation => operation.tuned settings
  | .adapter (.setReadTimeout timeout) => settings.withTimeout .reading timeout
  | .background (.setReadTimeout timeout) => settings.withTimeout .reading timeout
  | _ => settings

/-- That an operation changes neither the settings nor the address. -/
def Operation.Discreet (operation : Operation) : Prop :=
  operation.kind ≠ .setting ∧ operation.kind ≠ .moving

instance (operation : Operation) : Decidable operation.Discreet :=
  inferInstanceAs (Decidable (_ ∧ _))

/-- What is not about the settings leaves them as they were. -/
theorem Operation.tuned_of_kind_ne {operation : Operation} (h : operation.kind ≠ .setting)
    (settings : PortSettings) : operation.tuned settings = settings := by
  cases operation with
  | stream => rfl
  | channel operation =>
    cases operation with
    | applySettings | setBaudRate | setReadTimeout | setWriteTimeout => exact absurd rfl h
    | setDataBits | setParity | setStopBits | setFlowControl => exact absurd rfl h
    | _ => rfl
  | device operation =>
    cases operation with
    | setBaudRate | setTimeout | setDataBits | setParity | setStopBits | setFlowControl => exact absurd rfl h
    | _ => rfl
  | adapter operation | background operation =>
    cases operation with
    | setReadTimeout => exact absurd rfl h
    | _ => rfl

/-! ## Leaving them alone -/

/-- What leaves the settings alone. -/
def Action.Untuned (action : Action) : Prop :=
  ∀ change, action ≠ .changeSettings change

/-- What leaves the address alone. -/
def Action.Unmoved (action : Action) : Prop :=
  ∀ address, action ≠ .setAddress address

/-- Only an operation that is there for that changes the settings. -/
theorem Operation.untuned {operation : Operation} (h : operation.kind ≠ .setting) :
    operation.job.Obeys (.always Action.Untuned) [] := by
  refine (operation.obeys []).mono fun _ action hrule change heq => ?_
  subst heq
  exact h hrule.1.1

/-- Only an operation that is there for that changes the address. -/
theorem Operation.unmoved {operation : Operation} (h : operation.kind ≠ .moving) :
    operation.job.Obeys (.always Action.Unmoved) [] := by
  refine (operation.obeys []).mono fun _ action hrule address heq => ?_
  subst heq
  exact h hrule.1

namespace Program

/-- A job secures what its program secures. -/
theorem Secures.job {r : Rely} {post : World → Prop} {w : World} {p : Program ε α} (h : p.Secures r post w)
    (failure : ε → Failure) (answer : α → Answer) : (p.job failure answer).Secures r post w := by
  induction p generalizing w with
  | act action next ih =>
    exact fun _ _ reply _ hwithin hcomes => ih reply (h _ _ _ _ hwithin hcomes)
  | _ => exact h

end Program

namespace Channel

open Program

/-- Others may do anything but change one view of the channel. -/
def keeping {γ : Type} (view : Channel → γ) : Rely where
  within w w' := view w'.channel = view w.channel
  refl _ := rfl
  trans h h' := h'.trans h
  tick _ _ := rfl

/-- What is told of a kept part of the channel is spared. -/
theorem keeping_spares {γ : Type} (view : Channel → γ) (holds : γ → Prop) :
    (keeping view).Spares fun w => holds (view w.channel) := fun _ _ hwithin hholds => by
  change holds _
  rwa [hwithin]

section tuning

variable {w : World} {change : PortSettings → PortSettings}

/-- A program that leaves the settings alone secures those that there are. -/
theorem secures_untuned {p : Program ε α} {seen : List Deed} {settings : PortSettings}
    (h : p.Obeys (.always Action.Untuned) seen) (hw : w.channel.settings = settings) :
    p.Secures (keeping Channel.settings) (fun w' => w'.channel.settings = settings) w :=
  secures_of_obeys h (fun huntuned hcomes => hcomes.frame.settings huntuned)
    (keeping_spares Channel.settings (· = settings)) hw

/-- A change of the settings is secured if what follows leaves them alone. -/
theorem secures_change {next : Unit → Program ε α} (hnext : ∀ seen, (next ()).Obeys (.always Action.Untuned) seen) :
    (Program.act (.changeSettings change) next).Secures (keeping Channel.settings)
      (fun w' => w'.channel.settings = change w.channel.settings) w := by
  refine secures_act (keeping_spares Channel.settings (· = w.channel.settings)) rfl fun {_ w₁ _ w₂} hw₁ hcomes => ?_
  refine secures_untuned (hnext []) ?_
  cases hcomes with
  | gaveUp hrun => cases hrun
  | replied hrun =>
    cases hrun
    exact congrArg change hw₁

/-- A change of the settings leaves them changed so. -/
theorem secures_changeSettings :
    (changeSettings change : Program ε Unit).Secures (keeping Channel.settings)
      (fun w' => w'.channel.settings = change w.channel.settings) w :=
  secures_change fun _ => obeys_done

/-- Checking the settings leaves them alone. -/
theorem untuned_reconfigure {seen : List Deed} : reconfigure.Obeys (.always Action.Untuned) seen := by
  have hlooks : reconfigure.Obeys Kind.looking.rule seen := obeys_reconfigure
  refine hlooks.mono fun _ action hrule change heq => ?_
  subst heq
  cases hrule.1.1

/-- A checked change of the settings is made if the baud rate is not zero. -/
theorem secures_checkedChange (rate : UInt32) (change : UInt32 → PortSettings → PortSettings) :
    (do
      let checked ← Program.ofExcept (checkBaudRate rate.toNat)
      Program.changeSettings (change checked)
      if ← Program.getOpen then reconfigure else pure () : Operation Unit).Secures (keeping Channel.settings)
      (fun w' => w'.channel.settings =
        if rate = 0 then w.channel.settings else change rate w.channel.settings) w := by
  cases hcheck : checkBaudRate rate.toNat with
  | error failure =>
    have hzero : rate = 0 := by
      by_contra hrate
      obtain ⟨checked, hchecked⟩ := checkBaudRate_isOk.2
        ⟨Nat.pos_of_ne_zero fun h => hrate (UInt32.toNat_inj.1 h), Nat.le_of_lt_succ rate.toNat_lt⟩
      cases hcheck.symm.trans hchecked
    rw [if_pos hzero]
    exact secures_fail (keeping_spares Channel.settings (· = w.channel.settings)) rfl
  | ok checked =>
    obtain ⟨hrate, rfl⟩ := ne_zero_of_checkBaudRate hcheck
    rw [if_neg hrate]
    refine secures_change fun seen => obeys_act.2 ⟨nofun, fun isOpen => ?_⟩
    cases isOpen with
    | true => exact untuned_reconfigure
    | false => exact obeys_done

/-- Settings are applied unless their baud rate is zero. -/
theorem secures_applySettings (given : PortSettings) :
    (applySettings given).Secures (keeping Channel.settings)
      (fun w' => w'.channel.settings = if given.baudRate = 0 then w.channel.settings else given) w :=
  secures_checkedChange given.baudRate fun _ _ => given

/-- A baud rate is set unless it is zero. -/
theorem secures_setBaudRate (rate : UInt32) :
    (setBaudRate rate).Secures (keeping Channel.settings) (fun w' => w'.channel.settings =
      if rate = 0 then w.channel.settings else { w.channel.settings with baudRate := rate }) w :=
  secures_checkedChange rate fun rate settings => { settings with baudRate := rate }

end tuning

end Channel

/-- An operation leaves the settings that it is to leave, if nobody else changes them meanwhile. -/
theorem Operation.secures_tuned (operation : Operation) (w : World) :
    operation.job.Secures (Channel.keeping Channel.settings)
      (fun w' => w'.channel.settings = operation.tuned w.channel.settings) w := by
  by_cases hkind : operation.kind = .setting
  · cases operation with
    | stream operation => cases operation <;> cases hkind
    | channel operation =>
      cases operation with
      | applySettings given => exact (Channel.secures_applySettings given).job _ _
      | setBaudRate rate => exact (Channel.secures_setBaudRate rate).job _ _
      | setReadTimeout | setWriteTimeout => exact Channel.secures_changeSettings.job _ _
      | setDataBits | setParity | setStopBits | setFlowControl => exact Channel.secures_changeSettings.job _ _
      | _ => cases hkind
    | device operation =>
      cases operation with
      | setBaudRate rate => exact ((Channel.secures_setBaudRate rate).mapFailure _).job _ _
      | setTimeout => exact Channel.secures_changeSettings.job _ _
      | setDataBits | setParity | setStopBits | setFlowControl => exact Channel.secures_changeSettings.job _ _
      | _ => cases hkind
    | adapter operation | background operation =>
      cases operation with
      | setReadTimeout => exact Channel.secures_changeSettings.job _ _
      | _ => cases hkind
  · rw [tuned_of_kind_ne hkind]
    exact Channel.secures_untuned (untuned hkind) rfl

end Loopback
