import NesMachine.Cpu.Mode
import NesMachine.Cpu.Operation
/-!
# The opcode table

Each of the 256 opcode bytes has an entry: the operation it runs, if the core implements it, and
its base cycle cost. The addressing mode of every entry is the one the decoder assigns to the
byte (`Mode.nominal`), so the instruction size and the operand bytes an entry consumes never
depend on whether it is implemented. Undefined opcodes cost 0 cycles, print as `???` and run as
no-ops.
-/

namespace NesMachine

/-- The operation and base cycle cost of the 62 implemented opcodes. -/
def implementedAt (opcode : UInt8) : Option (Operation × Nat) :=
  match opcode.toNat with
  -- loads and stores
  | 0xA9 => some (.load .a .operand, 2)
  | 0xA5 => some (.load .a .operand, 3)
  | 0xAD => some (.load .a .operand, 4)
  | 0xBD => some (.load .a .baseIndexed, 4)
  | 0xA2 => some (.load .x .operand, 2)
  | 0xA0 => some (.load .y .operand, 2)
  | 0x85 => some (.store .a, 3)
  | 0x8D => some (.store .a, 4)
  | 0x9D => some (.store .a, 5)
  -- transfers
  | 0xAA => some (.transfer .a .x, 2)
  | 0xA8 => some (.transfer .a .y, 2)
  | 0x8A => some (.transfer .x .a, 2)
  | 0x98 => some (.transfer .y .a, 2)
  | 0xBA => some (.transfer .sp .x, 2)
  | 0x9A => some (.transfer .x .sp, 2)
  -- increments and decrements
  | 0xE8 => some (.increment .x, 2)
  | 0xC8 => some (.increment .y, 2)
  | 0xCA => some (.decrement .x, 2)
  | 0x88 => some (.decrement .y, 2)
  -- compares
  | 0xC9 => some (.compare .a .operand, 2)
  | 0xDD => some (.compare .a .baseIndexed, 4)
  | 0xE0 => some (.compare .x .operand, 2)
  | 0xC0 => some (.compare .y .operand, 2)
  -- logic
  | 0x01 => some (.ora, 6)
  | 0x05 => some (.ora, 3)
  | 0x0D => some (.ora, 4)
  | 0x11 => some (.ora, 5)
  | 0x15 => some (.ora, 4)
  | 0x19 => some (.ora, 4)
  | 0x1D => some (.ora, 4)
  | 0x24 => some (.bit, 3)
  | 0x2C => some (.bit, 4)
  -- shifts
  | 0x0A => some (.asl, 2)
  | 0x06 => some (.asl, 5)
  | 0x0E => some (.asl, 6)
  | 0x1E => some (.asl, 7)
  -- stack
  | 0x08 => some (.push .status, 3)
  | 0x28 => some (.pull .status, 4)
  | 0x48 => some (.push .accumulator, 3)
  | 0x68 => some (.pull .accumulator, 4)
  -- flags
  | 0x18 => some (.setFlag .carry false, 2)
  | 0x38 => some (.setFlag .carry true, 2)
  | 0x58 => some (.setFlag .interruptDisable false, 2)
  | 0x78 => some (.setFlag .interruptDisable true, 2)
  | 0xB8 => some (.setFlag .overflow false, 2)
  | 0xD8 => some (.setFlag .decimal false, 2)
  | 0xF8 => some (.setFlag .decimal true, 2)
  -- branches
  | 0x10 => some (.branch .negative false, 2)
  | 0x30 => some (.branch .negative true, 2)
  | 0x50 => some (.branch .overflow false, 2)
  | 0x70 => some (.branch .overflow true, 2)
  | 0x90 => some (.branch .carry false, 2)
  | 0xB0 => some (.branch .carry true, 2)
  | 0xD0 => some (.branch .zero false, 2)
  | 0xF0 => some (.branch .zero true, 2)
  -- control flow
  | 0x00 => some (.brk, 7)
  | 0x20 => some (.jsr, 6)
  | 0x40 => some (.rti, 6)
  | 0x60 => some (.rts, 6)
  | 0x4C => some (.jmp, 3)
  | 0x6C => some (.jmp, 5)
  | 0xEA => some (.nop, 2)
  | _ => none

/-- An opcode byte with what the table says about it. -/
structure Opcode where
  byte : UInt8
  operation : Option Operation
  cycles : Nat
  deriving DecidableEq, Repr

/-- The table entry of an opcode byte; total over all 256 values. -/
def lookup (byte : UInt8) : Opcode :=
  match implementedAt byte with
  | some (op, cycles) => ⟨byte, some op, cycles⟩
  | none => ⟨byte, none, 0⟩

theorem lookup_byte (byte : UInt8) : (lookup byte).byte = byte := by
  unfold lookup; split <;> rfl

namespace Opcode

/-- The entry's addressing mode: always the decoder's mode for its byte. -/
def mode (o : Opcode) : Mode :=
  Mode.nominal o.byte

/-- Instruction length in bytes, opcode included. -/
def size (o : Opcode) : Nat :=
  o.mode.size

/-- Whether the core implements the opcode. -/
def isImplemented (o : Opcode) : Bool :=
  o.operation.isSome

/-- The mnemonic, `???` for an undefined opcode. -/
def mnemonic (o : Opcode) : String :=
  match o.operation with
  | some op => op.mnemonic
  | none => "???"

/-- The record text of an entry: `Opcode { mnemonic: "LDA", cycles: 2, mode: Immediate }`. -/
def debugText (o : Opcode) : String :=
  "Opcode \x7b mnemonic: \"" ++ o.mnemonic ++ "\", cycles: " ++ toString o.cycles ++
    ", mode: " ++ o.mode.name ++ " \x7d"

end Opcode

/-- The whole table, opcode 0 first. -/
def opcodeTable : List Opcode :=
  (List.range 256).map (fun n => lookup n.toUInt8)

end NesMachine
