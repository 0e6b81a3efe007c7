import NesMachine.Cpu.Disassembly
import NesMachine.Cpu.Operand
import NesMachine.Cpu.Table
/-!
# Executing instructions

A `Machine` is a processor and its bus. `Machine.execute` runs one instruction:

1. it refuses to run before a reset (`CpuError.notReset`);
2. it reads the opcode at the program counter and the operand bytes after it, modulo 2^16, and
   logs them at trace level as assembly text (`Machine.traceLine`);
3. it moves the program counter past the instruction;
4. it runs the operation and answers the opcode's base cycle cost.

A failed read in step 2 leaves the machine as it was. An operation first does all its reads and
then its stores, and every refusal comes from a read or from the check of its one possible
non-stack store, so a failed operation stores nothing: the machine differs from the one before
only in the program counter moved in step 3. An operation is therefore given as an `Effect`, the
new registers and the stores to make, computed from the machine without changing it.
-/

namespace NesMachine

/-- Why an instruction could not run. -/
inductive CpuError where
  /-- A bus access of the instruction was refused. -/
  | bus (e : BusError)
  /-- The processor has not been reset. -/
  | notReset
  deriving DecidableEq, Repr

/-- The sentence that describes the error; a bus error speaks for itself. -/
def CpuError.message : CpuError → String
  | .bus e => e.message
  | .notReset => "CPU has not been reset; PC holds no valid address"

/-- The address of the little-endian reset vector. -/
def resetVector : UInt16 := 0xFFFC

/-- The address of the little-endian vector `BRK` jumps through. -/
def breakVector : UInt16 := 0xFFFE

/-- Stores the bytes `(address, value)` in order; they have passed the bus's checks. -/
def Bus.storeAll (b : Bus) : List (UInt16 × UInt8) → Bus
  | [] => b
  | (addr, v) :: rest => (b.poke addr.toNat v).storeAll rest

/-- What an operation does once its reads are done: the new registers and the bytes to store. -/
structure Effect where
  cpu : Cpu
  stores : List (UInt16 × UInt8)
  deriving Repr

/-- A one-byte store, refused exactly where a one-byte bus write is. -/
def storeChecked (addr : UInt16) (v : UInt8) : Except BusError (UInt16 × UInt8) :=
  match Bus.writePlan addr 1 with
  | .error e => .error e
  | .ok _ => .ok (addr, v)

/-- Stores a byte at an operand: the accumulator, one memory byte, or nowhere. -/
def storeOperand (cpu : Cpu) (o : Operand) (v : UInt8) : Except BusError Effect :=
  match o with
  | .accumulator => pure ⟨{ cpu with a := v }, []⟩
  | .address addr => (fun s => ⟨cpu, [s]⟩) <$> storeChecked addr v
  | .none | .immediate _ => pure ⟨cpu, []⟩

namespace Cpu

/-- Pushes a byte: it goes to `$0100 | SP`, then SP moves down, modulo 256. -/
def push (c : Cpu) (v : UInt8) : Cpu × (UInt16 × UInt8) :=
  ({ c with sp := c.sp - 1 }, (c.stackAddress, v))

/-- Pulls a byte: SP moves up, modulo 256, then the byte at `$0100 | SP` is read. -/
def pull (c : Cpu) (bus : Bus) : Cpu × UInt8 :=
  let c' := { c with sp := c.sp + 1 }
  (c', bus.byteAt c'.stackAddress.toNat)

/-- Pushes a word, high byte first. -/
def pushWord (c : Cpu) (w : UInt16) : Cpu × List (UInt16 × UInt8) :=
  let (c1, s1) := c.push (w >>> 8).toUInt8
  let (c2, s2) := c1.push w.toUInt8
  (c2, [s1, s2])

/-- Pulls a word, low byte first. -/
def pullWord (c : Cpu) (bus : Bus) : Cpu × UInt16 :=
  let (c1, lo) := c.pull bus
  let (c2, hi) := c1.pull bus
  (c2, wordOf lo hi)

/-- Carry when `reg ≥ m`, zero and negative from `reg - m` modulo 256. -/
def compareWith (c : Cpu) (reg m : UInt8) : Cpu :=
  { c with status := (c.status.set .carry (reg ≥ m)).setZN (reg - m) }

/-- The reset: registers cleared, SP at the top of page one, the program counter from the reset
vector, running. The vector lies in the cartridge window, where a word read never fails. -/
def reset (bus : Bus) : Cpu :=
  afterReset (bus.vectorAt resetVector.toNat)

end Cpu

/-- The value a load or compare uses. -/
def fetchValue (cpu : Cpu) (bus : Bus) (ins : Instruction) : Fetch → Except BusError UInt8
  | .operand => do readOperand cpu bus (← resolve cpu bus ins)
  | .baseIndexed => readBasePlusX cpu bus ins

/-- What an operation does, given the instruction and the registers after the program counter
has moved past it. -/
def Operation.effect (op : Operation) (ins : Instruction) (cpu : Cpu) (bus : Bus) :
    Except BusError Effect :=
  match op with
  | .load r fetch => do
    let v ← fetchValue cpu bus ins fetch
    pure ⟨cpu.loadReg r v, []⟩
  | .store r => do
    let o ← resolve cpu bus ins
    storeOperand cpu o (cpu.reg r)
  | .transfer src dst => pure ⟨cpu.loadReg dst (cpu.reg src), []⟩
  | .increment r => pure ⟨cpu.loadReg r (cpu.reg r + 1), []⟩
  | .decrement r => pure ⟨cpu.loadReg r (cpu.reg r - 1), []⟩
  | .compare r fetch => do
    let m ← fetchValue cpu bus ins fetch
    pure ⟨cpu.compareWith (cpu.reg r) m, []⟩
  | .ora => do
    let m ← fetchValue cpu bus ins .operand
    pure ⟨cpu.loadReg .a (cpu.a ||| m), []⟩
  | .bit => do
    let m ← fetchValue cpu bus ins .operand
    let s := ((cpu.status.set .zero (cpu.a &&& m == 0)).set .negative (m &&& 0x80 != 0)).set
      .overflow (m &&& 0x40 != 0)
    pure ⟨{ cpu with status := s }, []⟩
  | .asl => do
    let o ← resolve cpu bus ins
    let v ← readOperand cpu bus o
    let result := v <<< 1
    let eff ← storeOperand cpu o result
    let s := (eff.cpu.status.set .carry (v &&& 0x80 != 0)).setZN result
    pure { eff with cpu := { eff.cpu with status := s } }
  | .push item =>
    let v := match item with
      | .accumulator => cpu.a
      | .status => cpu.status.bits
    let (c, s) := cpu.push v
    pure ⟨c, [s]⟩
  | .pull .accumulator =>
    let (c, v) := cpu.pull bus
    pure ⟨c.loadReg .a v, []⟩
  | .pull .status =>
    let (c, v) := cpu.pull bus
    pure ⟨{ c with status := ⟨v⟩ }, []⟩
  | .setFlag f v => pure ⟨cpu.setFlag f v, []⟩
  | .branch f v =>
    if cpu.flag f == v then pure ⟨{ cpu with pc := relativeTarget cpu.pc ins.lo }, []⟩
    else pure ⟨cpu, []⟩
  | .brk =>
    let target := bus.vectorAt breakVector.toNat
    let (c1, s1) := cpu.pushWord cpu.pc
    let (c2, s2) := c1.push c1.status.bits
    let c3 := (c2.setFlag .brk true).setFlag .interruptDisable true
    pure ⟨{ c3 with pc := target }, s1 ++ [s2]⟩
  | .jsr =>
    let (c, s) := cpu.pushWord (cpu.pc - 2)
    pure ⟨{ c with pc := ins.word }, s⟩
  | .rti =>
    let (c1, p) := cpu.pull bus
    let (c2, w) := ({ c1 with status := ⟨p⟩ } : Cpu).pullWord bus
    pure ⟨{ c2 with pc := w }, []⟩
  | .rts =>
    let (c, w) := cpu.pullWord bus
    pure ⟨{ c with pc := w + 2 }, []⟩
  | .jmp => do
    match ← resolve cpu bus ins with
    | .address target => pure ⟨{ cpu with pc := target }, []⟩
    | _ => pure ⟨cpu, []⟩
  | .nop => pure ⟨cpu, []⟩

/-- A processor with its bus. -/
structure Machine where
  cpu : Cpu
  bus : Bus

namespace Machine

/-- A machine as constructed: a processor waiting for a reset and an all-zero bus. -/
def initial : Machine := ⟨Cpu.initial, Bus.empty⟩

/-- Reads the instruction at `pc`: the opcode, then the operand bytes its mode needs at
`pc + 1` and `pc + 2`, modulo 2^16. -/
def fetchAt (bus : Bus) (pc : UInt16) : Except BusError Instruction := do
  let opcode ← bus.readByte pc
  let size := (lookup opcode).size
  let lo ← if size ≥ 2 then bus.readByte (pc + 1) else pure 0
  let hi ← if size ≥ 3 then bus.readByte (pc + 2) else pure 0
  pure ⟨opcode, (lookup opcode).mode, lo, hi⟩

/-- Runs one instruction; answers its base cycle cost, or why it could not run. -/
def execute : Machine → Machine × Except CpuError Nat
  | ⟨cpu, bus⟩ =>
    if cpu.phase != .running then (⟨cpu, bus⟩, .error .notReset)
    else
      match fetchAt bus cpu.pc with
      | .error e => (⟨cpu, bus⟩, .error (.bus e))
      | .ok ins =>
        let entry := lookup ins.opcode
        let moved := { cpu with pc := cpu.pc + entry.size.toUInt16 }
        match entry.operation with
        | none => (⟨moved, bus⟩, .ok 0)
        | some op =>
          match op.effect ins moved bus with
          | .error e => (⟨moved, bus⟩, .error (.bus e))
          | .ok eff => (⟨eff.cpu, bus.storeAll eff.stores⟩, .ok entry.cycles)

/-- The line a step logs at trace level once its instruction is fetched, before it runs: the
program counter in four upper-case hex digits, two spaces, and the fetched bytes as assembly text.
A step refused before its fetch completes logs none. -/
def traceLine : Machine → Option String
  | ⟨cpu, bus⟩ =>
    if cpu.phase != .running then none
    else (fetchAt bus cpu.pc).toOption.map fun ins =>
      Text.hexUpper 4 cpu.pc.toNat ++ "  " ++ disassemble ins.bytes

/-- What a run of instructions reports: how many completed, their cycles, and the error that
stopped it early, if one did. -/
structure RunReport where
  executed : Nat
  cycles : Nat
  failure : Option CpuError
  deriving Repr

/-- Runs up to `n` instructions, stopping at the first that fails. -/
def steps (m : Machine) (n : Nat) : Machine × RunReport :=
  go m n 0 0
where
  go (m : Machine) : Nat → Nat → Nat → Machine × RunReport
    | 0, executed, cycles => (m, ⟨executed, cycles, none⟩)
    | k + 1, executed, cycles =>
      match m.execute with
      | (m', .ok c) => go m' k (executed + 1) (cycles + c)
      | (m', .error e) => (m', ⟨executed, cycles, some e⟩)

end Machine

end NesMachine
