import Loopback.Config.Failure
import Loopback.Proofs.Channel.Decision

/-!
# Opening what a configuration describes

A configuration is checked for room for at least one byte and for a baud rate, not for memory: the room it
asks for may be more than can ever be had. So the channel of a configuration that passes, at an address that
can be decoded, is opened if and only if the memory for its queue can be asked for; otherwise its opening is
aborted and leaves it closed.
-/

namespace Loopback

namespace Channel

open Program

variable {task : Nat} {w : World} {outcome : Outcome PortFailure Unit} {c : Channel}

/-- Where the memory for a queue cannot be asked for, no session begins. -/
theorem leaves_openChecked_tooLarge (event : Traits → Event) (hbaud : w.channel.settings.baudRate ≠ 0)
    (hlarge : Queue.fitsMemory w.channel.traits.capacity = false) :
    (openChecked event).Leaves task w (.aborted Queue.tooLarge) w.channel := by
  refine leaves_reconfigure_bind hbaud fun w₁ hchecked => ?_
  have hmeasured : Action.getTraits.run task w₁ = .reply w.channel.traits w₁ none := by
    rw [Action.run, hchecked]
  apply leaves_act _ hmeasured
  dsimp only [Program.bind]
  rw [hlarge]
  exact ⟨w₁, rfl, hchecked⟩

/-- A closed channel with a good address is opened as far as its settings and the memory allow. -/
theorem leaves_openExclusively_of_parse {text : String} {address : Address}
    (hclosed : w.channel.isOpen = false) (haddress : w.channel.address = some text)
    (hparse : Address.parse text = .ok address)
    (hrest : ∀ w₁ : World, w₁.channel = { w.channel with diagnostics := address.logging } →
      (openChecked fun traits => openedEvent text traits.capacity).Leaves task w₁ outcome c) :
    openExclusively.Leaves task w outcome c := by
  have hasked : Action.getOpen.run task w = .reply false w none := by rw [Action.run, hclosed]
  have hgiven : Action.getAddress.run task (w.withChannel { w.channel with diagnostics := none }) =
      .reply (some text) (w.withChannel { w.channel with diagnostics := none }) none := by
    rw [← haddress]
    rfl
  rw [openExclusively_eq]
  apply leaves_act false hasked
  apply leaves_act () rfl
  apply leaves_act (some text) hgiven
  dsimp only [Program.bind]
  rw [hparse]
  exact leaves_act () rfl (hrest _ rfl)

end Channel

namespace ChannelConfig

open Channel

variable {c : Config} {address : Address}

/-- The channel that a configuration describes, once it has been opened. -/
structure Opened (c : ChannelConfig) (channel : Channel) : Prop where
  isOpen : channel.isOpen = true
  capacity : channel.traits.capacity = c.capacity.toNat
  queue : ∃ session q, channel.session? = some session ∧ channel.queues[session]? = some q ∧
    q.items = [] ∧ q.capacity = c.capacity.toNat

/-- The channel of a configuration that passes has the capacity that it asks for. -/
theorem capacity_builder (hvalid : c.validate = .ok ()) :
    c.channel.builder.build.traits.capacity = c.channel.capacity.toNat := by
  have hpos : c.channel.capacity.toNat ≠ 0 := by
    rw [Ne, ← UInt64.toNat_zero, UInt64.toNat_inj]
    exact (Config.validate_eq_ok.1 hvalid).1
  exact Nat.max_eq_left (Nat.one_le_iff_ne_zero.2 hpos)

/-- The channel of a configuration while it is being opened, when its settings come to be checked. -/
def attached (c : ChannelConfig) (address : Address) : Channel :=
  { c.builder.build with changing := true, diagnostics := address.logging }

/-- Where the address can be decoded, what comes of an opening is up to the settings and the memory. -/
theorem leaves_openPort (task : Nat) (hparse : Address.parse c.channel.address = .ok address)
    {outcome : Outcome PortFailure Unit} {channel : Channel}
    (hrest : ∀ w : World, w.channel = c.channel.attached address →
      (openChecked fun traits => openedEvent c.channel.address traits.capacity).Leaves task w outcome channel) :
    openPort.Leaves task c.channel.builder.world outcome { channel with changing := false } :=
  Program.leaves_exclusively rfl (leaves_openExclusively_of_parse rfl rfl hparse hrest)

/-- A checked configuration with an address that decodes is opened, if its capacity fits the memory. -/
theorem leaves_openPort_of_fits (task : Nat) (hvalid : c.validate = .ok ())
    (hparse : Address.parse c.channel.address = .ok address)
    (hfits : Queue.fitsMemory c.channel.capacity.toNat = true) :
    ∃ channel, openPort.Leaves task c.channel.builder.world (.ok ()) channel ∧ c.channel.Opened channel := by
  have hcapacity := capacity_builder hvalid
  have hopened : ∀ w : World, w.channel = c.channel.attached address →
      (openChecked fun traits => openedEvent c.channel.address traits.capacity).Leaves task w (.ok ())
        { c.channel.attached address with
          isOpen := true
          queues := [Queue.create c.channel.capacity.toNat] } := by
    intro w hw
    have hbaud : w.channel.settings.baudRate ≠ 0 := hw ▸ (Config.validate_eq_ok.1 hvalid).2
    have hroom : w.channel.traits.capacity = c.channel.capacity.toNat := hw ▸ hcapacity
    have hleaves : (openChecked _).Leaves task w _ _ :=
      leaves_openChecked (fun traits => openedEvent c.channel.address traits.capacity) hbaud (hroom ▸ hfits)
    rw [hroom, hw] at hleaves
    exact hleaves
  refine ⟨_, leaves_openPort task hparse hopened, rfl, hcapacity, 0, _, rfl, rfl, rfl, ?_⟩
  rw [← hcapacity]
  exact Nat.max_eq_left c.channel.builder.capacity_build

/-- A checked configuration with an address that decodes aborts its opening, if its capacity does not fit the
memory. -/
theorem leaves_openPort_of_not_fits (task : Nat) (hvalid : c.validate = .ok ())
    (hparse : Address.parse c.channel.address = .ok address)
    (hlarge : Queue.fitsMemory c.channel.capacity.toNat = false) :
    ∃ channel, openPort.Leaves task c.channel.builder.world (.aborted Queue.tooLarge) channel ∧
      channel.isOpen = false ∧ channel.queues = [] := by
  have hcapacity := capacity_builder hvalid
  have haborted : ∀ w : World, w.channel = c.channel.attached address →
      (openChecked fun traits => openedEvent c.channel.address traits.capacity).Leaves task w
        (.aborted Queue.tooLarge) (c.channel.attached address) := by
    intro w hw
    have hbaud : w.channel.settings.baudRate ≠ 0 := hw ▸ (Config.validate_eq_ok.1 hvalid).2
    have hroom : w.channel.traits.capacity = c.channel.capacity.toNat := hw ▸ hcapacity
    have hleaves : (openChecked _).Leaves task w _ _ :=
      leaves_openChecked_tooLarge (fun traits => openedEvent c.channel.address traits.capacity) hbaud
        (hroom ▸ hlarge)
    rw [hw] at hleaves
    exact hleaves
  exact ⟨_, leaves_openPort task hparse haborted, rfl, rfl⟩

end ChannelConfig

/-- The memory for a queue can be asked for up to 2⁶³ - 1 octets, of which each byte takes three. -/
theorem Queue.fitsMemory_iff {capacity : Nat} : fitsMemory capacity = true ↔ 3 * capacity < 2 ^ 63 := by
  rw [fitsMemory, decide_eq_true_iff, entrySize, Text.maxSigned64]
  omega

/-- The channel of a configuration that passes, at an address that can be decoded, is opened with the
capacity that it asks for if the memory for that can be asked for; otherwise its opening is aborted, and it
is left closed. -/
theorem Config.validated_opening (c : Config) (task : Nat) (hvalid : c.validate = .ok ())
    (hparse : ∃ address, Address.parse c.channel.address = .ok address) :
    (3 * c.channel.capacity.toNat < 2 ^ 63 → ∃ w,
      Channel.openPort.alone task c.channel.builder.world = .ended (.ok ()) w ∧ c.channel.Opened w.channel) ∧
    (2 ^ 63 ≤ 3 * c.channel.capacity.toNat → ∃ w,
      Channel.openPort.alone task c.channel.builder.world = .ended (.aborted "capacity overflow") w ∧
        w.channel.isOpen = false ∧ w.channel.queues = []) := by
  obtain ⟨address, hparse⟩ := hparse
  constructor
  · intro hfits
    obtain ⟨channel, ⟨w, hended, rfl⟩, hopened⟩ :=
      ChannelConfig.leaves_openPort_of_fits task hvalid hparse (Queue.fitsMemory_iff.2 hfits)
    exact ⟨w, hended, hopened⟩
  · intro hlarge
    have hnot : Queue.fitsMemory c.channel.capacity.toNat = false :=
      Bool.eq_false_iff.2 fun hfits => by have := Queue.fitsMemory_iff.1 hfits; omega
    obtain ⟨channel, ⟨w, hended, rfl⟩, hclosed⟩ :=
      ChannelConfig.leaves_openPort_of_not_fits task hvalid hparse hnot
    exact ⟨w, hended, hclosed⟩

/-- The default configuration with another capacity. -/
def Config.roomFor (capacity : UInt64) : Config :=
  { Config.default with channel := { ChannelConfig.default with capacity } }

/-- The smallest room is opened, and the largest is not. -/
theorem Config.validated_opening_extremes :
    (∃ w, Channel.openPort.alone 0 (roomFor 1).channel.builder.world = .ended (.ok ()) w ∧
      (roomFor 1).channel.Opened w.channel) ∧
    (∃ w, Channel.openPort.alone 0 (roomFor 0xffffffffffffffff).channel.builder.world =
      .ended (.aborted "capacity overflow") w ∧ w.channel.isOpen = false ∧ w.channel.queues = []) := by
  have hparse : ∃ address, Address.parse "loop://" = .ok address := ⟨.plain, by decide +kernel⟩
  constructor
  · exact (validated_opening (roomFor 1) 0 (by decide) hparse).1 (by decide)
  · exact (validated_opening (roomFor 0xffffffffffffffff) 0 (by decide) hparse).2 (by decide)

/-- A configuration that passes may ask for more than there can be memory for, and then cannot be opened. -/
theorem Config.not_always_opened :
    ¬ ∀ c : Config, c.validate = .ok () → (∃ address, Address.parse c.channel.address = .ok address) →
      ∃ w, Channel.openPort.alone 0 c.channel.builder.world = .ended (.ok ()) w ∧
        w.channel.isOpen = true ∧ w.channel.traits.capacity = c.channel.capacity.toNat := by
  intro hall
  have hparse : Address.parse "loop://" = .ok .plain := by decide +kernel
  obtain ⟨w, hended, -, -⟩ := hall (roomFor 0xffffffffffffffff) (by decide) ⟨_, hparse⟩
  have hlarge := ChannelConfig.leaves_openPort_of_not_fits 0 (c := roomFor 0xffffffffffffffff) (by decide)
    hparse (by decide)
  obtain ⟨_, ⟨w', haborted, -⟩, -⟩ := hlarge
  rw [haborted] at hended
  cases hended

end Loopback
