import Loopback.Config.Basic
import Loopback.Misfit
import Loopback.Host.Path

/-!
# Failures of configurations

Why a configuration could not be read, checked or written.
-/

namespace Loopback

/-- Why a configuration failed. A file that is well written but of the wrong shape says how. -/
inductive ConfigFailure where
  | read (path : Path) (failure : IoFailure)
  | parse (path : Path) (misfit : Option Misfit)
  | encode
  | write (path : Path) (failure : IoFailure)
  | outOfRange (key reason : String)
  | channel (failure : PortFailure)
  | environment (name value expected : String)
  | noPath
deriving DecidableEq, Repr

namespace ConfigFailure

/-- The failure of a capacity of zero. -/
def noCapacity : ConfigFailure := .outOfRange "channel.capacity" "must be at least 1"

/-- The wording of a failure. Of a file that cannot be read as a configuration only the reason is
given, where one is known. -/
def message : ConfigFailure → String
  | .read path failure => "cannot read config file '" ++ path.shown ++ "': " ++ failure.message
  | .parse path misfit =>
    "config file '" ++ path.shown ++ "' is not valid: " ++ (misfit.map Misfit.message).getD "not well formed"
  | .encode => "cannot encode configuration: out-of-range value for u64 type"
  | .write path failure => "cannot write config file '" ++ path.shown ++ "': " ++ failure.message
  | .outOfRange key reason => "'" ++ key ++ "' " ++ reason
  | .channel failure => "channel setting rejected: " ++ failure.message
  | .environment name value expected =>
    name ++ "=" ++ Text.quoted value ++ " is not a valid " ++ expected
  | .noPath => "no config file path; use save_to"

/-- The failure shown with its parts. -/
def text : ConfigFailure → String
  | .read path failure =>
    Text.record "Read" [("path", Text.quoted path.shown), ("source", failure.text)]
  | .parse _ _ => "Parse"
  | .encode => "Encode"
  | .write path failure =>
    Text.record "Write" [("path", Text.quoted path.shown), ("source", failure.text)]
  | .outOfRange key reason =>
    Text.record "OutOfRange" [("key", Text.quoted key), ("reason", Text.quoted reason)]
  | .channel failure => Text.wrapped "Channel" failure.text
  | .environment name value expected =>
    Text.record "Env" [
      ("var", Text.quoted name), ("value", Text.quoted value), ("expected", Text.quoted expected)]
  | .noPath => "NoPath"

end ConfigFailure

namespace Config

/-- A configuration that a channel can be built from has room for a byte and a baud rate. -/
def validate (c : Config) : Except ConfigFailure Unit :=
  if c.channel.capacity = 0 then .error .noCapacity
  else
    match checkBaudRate c.channel.baudRate.toNat with
    | .ok _ => .ok ()
    | .error failure => .error (.channel failure)

/-- A rate of 32 bits can only be at fault by being zero. -/
theorem validate_eq (c : Config) :
    c.validate =
      if c.channel.capacity = 0 then .error (.outOfRange "channel.capacity" "must be at least 1")
      else if c.channel.baudRate = 0 then .error (.channel (.invalidBaudRate 0))
      else .ok () := by
  have hbound : c.channel.baudRate.toNat ≤ Text.max32 := Nat.le_of_lt_succ c.channel.baudRate.toNat_lt
  have hpos : 0 < c.channel.baudRate.toNat ↔ c.channel.baudRate ≠ 0 := by
    rw [Nat.pos_iff_ne_zero, Ne, ← UInt32.toNat_zero, UInt32.toNat_inj]
  by_cases hcapacity : c.channel.capacity = 0
  · simp [validate, hcapacity, ConfigFailure.noCapacity]
  · by_cases hbaud : c.channel.baudRate = 0 <;> simp [validate, checkBaudRate, hcapacity, hpos, hbound, hbaud]

/-- A configuration passes if it has room for a byte and a baud rate. -/
theorem validate_eq_ok {c : Config} :
    c.validate = .ok () ↔ c.channel.capacity ≠ 0 ∧ c.channel.baudRate ≠ 0 := by
  rw [validate_eq]
  by_cases hcapacity : c.channel.capacity = 0
  · simp [hcapacity]
  · by_cases hbaud : c.channel.baudRate = 0 <;> simp [hcapacity, hbaud]

end Config

end Loopback
