import Loopback.Channel.Lifecycle

/-!
# Building channels

A channel is built closed, from an address if it has one, a capacity, settings, and the rest it
takes when it closes.
-/

namespace Loopback

/-- What a channel is built from. -/
structure Builder where
  address : Option String
  capacity : Nat
  settings : PortSettings
  closeSettle : Duration

namespace Builder

/-- How many bytes a channel holds that was given no capacity. -/
def defaultCapacity : Nat := 4096

/-- How long a channel rests when it closes, if it was not told. -/
def defaultCloseSettle : Duration := .ofMillis 300

/-- A channel without an address, with all else as it is by default. -/
def default : Builder := ⟨none, defaultCapacity, .default, defaultCloseSettle⟩

/-- A channel at an address, with all else as it is by default. -/
def ofAddress (address : String) : Builder := { default with address := some address }

/-- The closed channel. -/
def build (b : Builder) : Channel := .create ⟨b.capacity, b.closeSettle⟩ b.address b.settings

/-- The closed channel at the start of the clock, with nothing reported yet. -/
def world (b : Builder) : World := ⟨b.build, 0, []⟩

/-- A built channel has room for a byte, whatever capacity was asked for. -/
theorem capacity_build (b : Builder) : 1 ≤ b.build.traits.capacity :=
  Nat.le_max_right _ _

end Builder

end Loopback
