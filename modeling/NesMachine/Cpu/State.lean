import NesMachine.Cpu.Status
/-!
# Processor state

The registers, the status byte and the phase. A processor starts in the `reset` phase, where its
program counter means nothing and it refuses to run, and enters `running` when a reset has
loaded the program counter from the reset vector.
-/

namespace NesMachine

/-- The byte registers an operation can name. -/
inductive Register where
  | a
  | x
  | y
  | sp
  deriving DecidableEq, Repr

/-- The letter a register has in mnemonics (`TSX`: the stack pointer is `S`). -/
def Register.letter : Register → String
  | .a => "A"
  | .x => "X"
  | .y => "Y"
  | .sp => "S"

/-- Whether the program counter holds a meaningful address yet. -/
inductive Phase where
  | reset
  | running
  deriving DecidableEq, Repr

/-- The programmer-visible state of the processor. -/
structure Cpu where
  a : UInt8 := 0
  x : UInt8 := 0
  y : UInt8 := 0
  sp : UInt8 := 0
  pc : UInt16 := 0
  status : Status := Status.clear
  phase : Phase := .reset
  deriving DecidableEq, Repr

namespace Cpu

/-- A processor as constructed: every register zero, waiting for a reset. -/
def initial : Cpu := {}

/-- The stack pointer after a reset: the top of page one. -/
def stackTop : UInt8 := 0xFF

/-- The address the stack pointer designates, on page one. -/
def stackAddress (c : Cpu) : UInt16 :=
  0x0100 ||| c.sp.toUInt16

/-- A register's value. -/
def reg (c : Cpu) : Register → UInt8
  | .a => c.a
  | .x => c.x
  | .y => c.y
  | .sp => c.sp

/-- The processor with one register replaced; flags untouched. -/
def setReg (c : Cpu) : Register → UInt8 → Cpu
  | .a, v => { c with a := v }
  | .x, v => { c with x := v }
  | .y, v => { c with y := v }
  | .sp, v => { c with sp := v }

/-- Puts a value into a register and sets zero and negative from it. -/
def loadReg (c : Cpu) (r : Register) (v : UInt8) : Cpu :=
  { c.setReg r v with status := c.status.setZN v }

/-- Whether a flag is set. -/
def flag (c : Cpu) (f : Flag) : Bool :=
  c.status.get f

/-- Sets or clears one flag. -/
def setFlag (c : Cpu) (f : Flag) (v : Bool) : Cpu :=
  { c with status := c.status.set f v }

/-- Returns to the `reset` phase; the registers stay as they are. -/
def requestReset (c : Cpu) : Cpu :=
  { c with phase := .reset }

/-- The state a reset leaves: A, X, Y and status zero, the stack pointer at the top of page
one, the program counter at `pc`, running. -/
def afterReset (pc : UInt16) : Cpu :=
  { sp := stackTop, pc := pc, phase := .running }

end Cpu

end NesMachine
