import NesMachine.Cpu.Execute
import NesMachine.Cartridge.Loader
/-!
# The console

A console is a machine with a cartridge slot and a per-frame cycle budget.

* Inserting a cartridge installs its ROM and puts the processor back in the reset phase; a failed
  insertion changes nothing.
* `reset` clears RAM and the latches, keeps the cartridge and graphics memory, and resets the
  processor from the vector at `$FFFC`.
* `nextFrame` runs instructions until the frame's budget (at most `2^31 - 1` cycles) is spent,
  the last instruction may overshoot, and it also stops after `cyclesPerFrame` instructions so
  that zero-cycle instructions cannot run forever.
-/

namespace NesMachine

/-- The processor clock of an NTSC console, in Hz. -/
def cpuClockHz : Nat := 1789773

/-- The frame budget of an NTSC console: a sixtieth of a second of cycles. -/
def ntscCyclesPerFrame : Nat := cpuClockHz / 60

/-- The largest frame budget the loop counts down from: `2^31 - 1`. -/
def frameBudgetLimit : Nat := 0x7FFFFFFF

/-- The largest count a frame reports, `2^32 - 1`; its sum saturates there. -/
def frameCountLimit : Nat := 0xFFFFFFFF

/-- A machine with a frame budget. -/
structure Console where
  machine : Machine
  cyclesPerFrame : Nat

namespace Console

/-- A console with a fresh machine and the given frame budget. -/
def withCyclesPerFrame (cyclesPerFrame : Nat) : Console :=
  ⟨Machine.initial, cyclesPerFrame⟩

/-- A fresh NTSC console. -/
def new : Console := withCyclesPerFrame ntscCyclesPerFrame

/-- Inserts a cartridge image; on success the processor waits for a reset. -/
def insert (c : Console) (data : ByteArray) : Except CartridgeError (Console × Cartridge) := do
  let (bus, cart) ← c.machine.bus.loadImage data
  pure ({ c with machine := ⟨c.machine.cpu.requestReset, bus⟩ }, cart)

/-- Inserts a cartridge from a file's contents. -/
def insertFile (c : Console) (contents : Except ReadFailure ByteArray) :
    Except CartridgeError (Console × Cartridge) := do
  let (bus, cart) ← c.machine.bus.loadFile contents
  pure ({ c with machine := ⟨c.machine.cpu.requestReset, bus⟩ }, cart)

/-- Clears RAM and the latches, then resets the processor. -/
def reset (c : Console) : Console :=
  let bus := c.machine.bus.reset
  { c with machine := ⟨Cpu.reset bus, bus⟩ }

/-- Runs one instruction. -/
def execute (c : Console) : Console × Except CpuError Nat :=
  let (m, r) := c.machine.execute
  ({ c with machine := m }, r)

/-- Runs up to `n` instructions, adding their cycles to `total`; stops at the first failure. -/
def runFrom (c : Console) : Nat → Nat → Console × Except CpuError Nat
  | 0, total => (c, .ok total)
  | n + 1, total =>
    match c.execute with
    | (c', .ok cycles) => c'.runFrom n (total + cycles)
    | (c', .error e) => (c', .error e)

/-- Resets, then runs `n` instructions and answers their total cycles. -/
def run (c : Console) (n : Nat) : Console × Except CpuError Nat :=
  c.reset.runFrom n 0

/-- The frame loop: at most `fuel` more instructions while `left` cycles remain. -/
def frameLoop (c : Console) : Nat → Int → Nat → Console × Except CpuError Nat
  | 0, _, consumed => (c, .ok consumed)
  | fuel + 1, left, consumed =>
    if left > 0 then
      match c.execute with
      | (c', .ok cycles) =>
        c'.frameLoop fuel (left - cycles) (min (consumed + cycles) frameCountLimit)
      | (c', .error e) => (c', .error e)
    else (c, .ok consumed)

/-- Runs one frame and answers the cycles it consumed. -/
def nextFrame (c : Console) : Console × Except CpuError Nat :=
  c.frameLoop c.cyclesPerFrame (min c.cyclesPerFrame frameBudgetLimit) 0

/-- The bytes of the instruction at `addr`: the opcode and the operand bytes its mode needs,
read at `addr + 1` and `addr + 2` modulo 2^16. -/
def instructionAt (c : Console) (addr : UInt16) : Except BusError (List UInt8) := do
  let opcode ← c.machine.bus.readByte addr
  let rest ← ((List.range ((lookup opcode).size - 1)).map (fun i => addr + (i + 1).toUInt16)).mapM
    c.machine.bus.readByte
  pure (opcode :: rest)

end Console

end NesMachine
