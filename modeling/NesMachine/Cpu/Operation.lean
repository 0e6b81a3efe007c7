import NesMachine.Cpu.State
/-!
# Operations

The operations the core implements, as data: what an instruction does, apart from how its operand
is addressed. Mnemonics are computed from the operation, so two opcodes that share an operation
share a mnemonic by construction.
-/

namespace NesMachine

/-- Where a load or compare finds its value. `baseIndexed` reads the byte at the unindexed
absolute address and adds X to the value, modulo 256; `operand` reads what the addressing mode
designates. -/
inductive Fetch where
  | operand
  | baseIndexed
  deriving DecidableEq, Repr

/-- The two things the stack instructions move: the accumulator and the whole status byte. -/
inductive Stacked where
  | accumulator
  | status
  deriving DecidableEq, Repr

/-- What an implemented instruction does. -/
inductive Operation where
  /-- `LDA`, `LDX`, `LDY`: load a register, setting zero and negative. -/
  | load (r : Register) (fetch : Fetch)
  /-- `STA`: store a register at the effective address. -/
  | store (r : Register)
  /-- `TAX` and the other transfers: copy `src` into `dst`, setting zero and negative. -/
  | transfer (src dst : Register)
  /-- `INX`, `INY`: add one modulo 256. -/
  | increment (r : Register)
  /-- `DEX`, `DEY`: subtract one modulo 256. -/
  | decrement (r : Register)
  /-- `CMP`, `CPX`, `CPY`: carry, zero and negative from `r - m`. -/
  | compare (r : Register) (fetch : Fetch)
  /-- `ORA`: accumulator or memory. -/
  | ora
  /-- `BIT`: zero from `A & m`, negative and overflow from bits 7 and 6 of `m`. -/
  | bit
  /-- `ASL`: shift left one bit, carry takes bit 7. -/
  | asl
  /-- `PHA`, `PHP`. -/
  | push (item : Stacked)
  /-- `PLA`, `PLP`. -/
  | pull (item : Stacked)
  /-- `CLC`, `SEC` and the other flag instructions. -/
  | setFlag (f : Flag) (value : Bool)
  /-- A branch taken when `f` equals `value`. -/
  | branch (f : Flag) (value : Bool)
  | brk
  | jsr
  | rti
  | rts
  | jmp
  | nop
  deriving DecidableEq, Repr

namespace Operation

/-- The flag letter used by the set and clear mnemonics. -/
def flagLetter : Flag → String
  | .negative => "N"
  | .overflow => "V"
  | .reserved => "R"
  | .brk => "B"
  | .decimal => "D"
  | .interruptDisable => "I"
  | .zero => "Z"
  | .carry => "C"

/-- The branch mnemonic for a condition. -/
def branchMnemonic : Flag → Bool → String
  | .negative, false => "BPL"
  | .negative, true => "BMI"
  | .overflow, false => "BVC"
  | .overflow, true => "BVS"
  | .carry, false => "BCC"
  | .carry, true => "BCS"
  | .zero, false => "BNE"
  | .zero, true => "BEQ"
  | _, _ => "B??"

/-- The three-letter mnemonic. -/
def mnemonic : Operation → String
  | load r _ => "LD" ++ r.letter
  | store r => "ST" ++ r.letter
  | transfer src dst => "T" ++ src.letter ++ dst.letter
  | increment r => "IN" ++ r.letter
  | decrement r => "DE" ++ r.letter
  | compare .a _ => "CMP"
  | compare r _ => "CP" ++ r.letter
  | ora => "ORA"
  | bit => "BIT"
  | asl => "ASL"
  | push .accumulator => "PHA"
  | push .status => "PHP"
  | pull .accumulator => "PLA"
  | pull .status => "PLP"
  | setFlag f v => (if v then "SE" else "CL") ++ flagLetter f
  | branch f v => branchMnemonic f v
  | brk => "BRK"
  | jsr => "JSR"
  | rti => "RTI"
  | rts => "RTS"
  | jmp => "JMP"
  | nop => "NOP"

end Operation

end NesMachine
