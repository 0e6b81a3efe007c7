import NesMachine.Cpu.State
import NesMachine.Cpu.Mode
import NesMachine.Memory.Bus
/-!
# Operands

What the fetch stage hands to an operation (`Instruction`) and where the operation's data lives
(`Operand`). `resolve` turns one into the other against the registers; only the indirect modes
read memory while doing so, and a zero-page pointer's high byte wraps within page zero while
`JMP ($xxFF)` takes its high byte from the start of the same page.

`resolve` runs after the program counter has moved past the instruction, so a relative target is
counted from the following instruction.
-/

namespace NesMachine

/-- A fetched instruction: the opcode, its mode and two operand bytes (0 where unused). -/
structure Instruction where
  opcode : UInt8
  mode : Mode
  lo : UInt8
  hi : UInt8
  deriving DecidableEq, Repr

/-- The little-endian word of two bytes. -/
def wordOf (lo hi : UInt8) : UInt16 :=
  lo.toUInt16 ||| (hi.toUInt16 <<< 8)

/-- The operand bytes as a little-endian address. -/
def Instruction.word (ins : Instruction) : UInt16 :=
  wordOf ins.lo ins.hi

/-- The bytes the instruction occupies in memory: the opcode and as many operand bytes as its
mode takes. -/
def Instruction.bytes (ins : Instruction) : List UInt8 :=
  ins.opcode :: [ins.lo, ins.hi].take (ins.mode.size - 1)

/-- Where an operation's data lives. -/
inductive Operand where
  | none
  | accumulator
  | immediate (value : UInt8)
  | address (addr : UInt16)
  deriving DecidableEq, Repr

/-- A pointer stored in page zero at `base`; its high byte comes from `base + 1` modulo 256. -/
def Bus.zeroPagePointer (b : Bus) (base : UInt8) : Except BusError UInt16 := do
  let lo ← b.readByte base.toUInt16
  let hi ← b.readByte (base + 1).toUInt16
  pure (wordOf lo hi)

/-- The pointer `JMP (addr)` follows: its high byte comes from the same page as `addr`. -/
def Bus.indirectPointer (b : Bus) (addr : UInt16) : Except BusError UInt16 := do
  let lo ← b.readByte addr
  let hi ← b.readByte ((addr &&& 0xFF00) ||| ((addr + 1) &&& 0x00FF))
  pure (wordOf lo hi)

/-- The operand an instruction designates for the current registers. -/
def resolve (cpu : Cpu) (bus : Bus) (ins : Instruction) : Except BusError Operand :=
  match ins.mode with
  | .implied => pure .none
  | .accumulator => pure .accumulator
  | .immediate => pure (.immediate ins.lo)
  | .zeroPage => pure (.address ins.lo.toUInt16)
  | .zeroPageX => pure (.address (ins.lo + cpu.x).toUInt16)
  | .zeroPageY => pure (.address (ins.lo + cpu.y).toUInt16)
  | .relative => pure (.address (relativeTarget cpu.pc ins.lo))
  | .absolute => pure (.address ins.word)
  | .absoluteX => pure (.address (ins.word + cpu.x.toUInt16))
  | .absoluteY => pure (.address (ins.word + cpu.y.toUInt16))
  | .indirect => .address <$> bus.indirectPointer ins.word
  | .indirectX => .address <$> bus.zeroPagePointer (ins.lo + cpu.x)
  | .indirectY => (fun p => .address (p + cpu.y.toUInt16)) <$> bus.zeroPagePointer ins.lo

/-- The byte an operand designates; `none` reads as 0. -/
def readOperand (cpu : Cpu) (bus : Bus) : Operand → Except BusError UInt8
  | .none => pure 0
  | .accumulator => pure cpu.a
  | .immediate v => pure v
  | .address addr => bus.readByte addr

/-- Stores a byte where an operand designates: the accumulator (no flags change) or memory.
An implied or immediate operand has no location, and nothing changes. -/
def writeOperand (cpu : Cpu) (bus : Bus) (o : Operand) (v : UInt8) : Except BusError (Cpu × Bus) :=
  match o with
  | .accumulator => pure ({ cpu with a := v }, bus)
  | .address addr => (fun b => (cpu, b)) <$> bus.writeByte addr v
  | .none | .immediate _ => pure (cpu, bus)

/-- The value form of absolute,X used by `LDA $BD` and `CMP $DD`: the byte at the unindexed
address plus X, modulo 256. -/
def readBasePlusX (cpu : Cpu) (bus : Bus) (ins : Instruction) : Except BusError UInt8 :=
  (· + cpu.x) <$> bus.readByte ins.word

end NesMachine
