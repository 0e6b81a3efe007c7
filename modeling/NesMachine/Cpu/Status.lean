/-!
# The processor status byte

The status byte is the single record of the eight flags: each named flag is one bit of it, so
writing a byte and reading the flags back loses nothing, the reserved bit included. This core
numbers the bits from negative (bit 0) up to carry (bit 7); `Flag.mask` is that layout.
-/

namespace NesMachine

/-- The eight bits of the status byte, in bit order from bit 0. -/
inductive Flag where
  | negative
  | overflow
  | reserved
  | brk
  | decimal
  | interruptDisable
  | zero
  | carry
  deriving DecidableEq, Repr

namespace Flag

/-- The bit a flag occupies in the status byte. -/
def mask : Flag → UInt8
  | negative => 0x01
  | overflow => 0x02
  | reserved => 0x04
  | brk => 0x08
  | decimal => 0x10
  | interruptDisable => 0x20
  | zero => 0x40
  | carry => 0x80

/-- Every flag, in bit order. -/
def all : List Flag :=
  [negative, overflow, reserved, brk, decimal, interruptDisable, zero, carry]

end Flag

/-- The status byte. -/
structure Status where
  bits : UInt8
  deriving DecidableEq, Repr

namespace Status

/-- The status with every flag clear. -/
def clear : Status := ⟨0⟩

/-- Whether a flag's bit is set. -/
def get (s : Status) (f : Flag) : Bool :=
  s.bits &&& f.mask != 0

/-- Sets or clears one flag and keeps the other seven bits. -/
def set (s : Status) (f : Flag) (value : Bool) : Status :=
  if value then ⟨s.bits ||| f.mask⟩ else ⟨s.bits &&& ~~~f.mask⟩

/-- Zero and negative as a result byte gives them: zero when it is 0, negative when bit 7 is set. -/
def setZN (s : Status) (result : UInt8) : Status :=
  (s.set .zero (result == 0)).set .negative (result &&& 0x80 != 0)

/-- The byte obtained from a clear status by setting each non-reserved flag as `s` has it. -/
def rebuilt (s : Status) : Status :=
  [Flag.negative, .overflow, .brk, .decimal, .interruptDisable, .zero, .carry].foldl
    (fun acc f => acc.set f (s.get f)) clear

end Status

end NesMachine
