import NesMachine.Proofs.StepFailure
/-!
# Where the program counter goes

A step fetches the opcode at `p` and exactly as many operand bytes after it as the decoder's
mode for the opcode says, so a byte beyond the instruction is never read. It then moves the
program counter to `p + size`, modulo 2^16, and runs the operation; only the control transfers
move it again. `Machine.nextPc` gives the documented destination of every opcode: taken and
untaken branches, `JMP`, `JSR`, `RTS`, `RTI` and `BRK`, and `p + size` for everything else,
undefined opcodes included.

* `Operation.effect_pc`: where each operation sends the program counter it is given;
* `Operation.pcAfter_fetched`: at the instruction the bus holds, that is `Machine.nextPc`;
* `Machine.execute_pc`: a step whose fetch succeeds answers the table's cycle cost and ends at
  `Machine.nextPc`, or fails with the program counter moved past the instruction.
-/

namespace NesMachine

/-! ## Branch targets -/

/-- A displacement byte read as a signed number: `$80`-`$FF` stand for -128 to -1. -/
def signExtend (d : UInt8) : Int :=
  if d.toNat < 0x80 then d.toNat else d.toNat - 0x100

/-- Where a taken branch at `p` with displacement `d` goes: past its two bytes, then `d` further,
modulo 2^16. -/
def branchTarget (p : UInt16) (d : UInt8) : UInt16 :=
  UInt16.ofNat (((p.toNat : Int) + 2 + signExtend d) % 0x10000).toNat

theorem relativeTarget_eq_branchTarget (p : UInt16) (d : UInt8) :
    relativeTarget (p + 2) d = branchTarget p d := by
  have hd := d.toNat_lt
  have hp := p.toNat_lt
  apply UInt16.toNat_inj.1
  -- the two readings of "the displacement is forward" agree
  by_cases forward : d.toNat < 0x80
  · have forward' : d < 0x80 := UInt8.lt_iff_toNat_lt.2 forward
    simp [relativeTarget, branchTarget, signExtend, forward, forward', UInt16.toNat_add]
    omega
  · have backward : ¬ d < 0x80 := fun h => forward (UInt8.lt_iff_toNat_lt.1 h)
    simp [relativeTarget, branchTarget, signExtend, forward, backward, UInt16.toNat_add,
      UInt16.toNat_sub]
    omega

/-! ## Registers an operation builds -/

namespace Cpu

@[simp] theorem loadReg_pc (c : Cpu) (r : Register) (v : UInt8) : (c.loadReg r v).pc = c.pc := by
  cases r <;> rfl

@[simp] theorem setFlag_pc (c : Cpu) (f : Flag) (v : Bool) : (c.setFlag f v).pc = c.pc := rfl

@[simp] theorem compareWith_pc (c : Cpu) (reg m : UInt8) : (c.compareWith reg m).pc = c.pc := rfl

@[simp] theorem pull_sp (c : Cpu) (bus : Bus) : (c.pull bus).1.sp = c.sp + 1 := rfl

/-- A word pull reads the two slots above the stack pointer, low byte first. -/
theorem pullWord_word (c : Cpu) (bus : Bus) :
    (c.pullWord bus).2 = wordOf (bus.byteAt (c.stackSlot 1).toNat) (bus.byteAt (c.stackSlot 2).toNat) := by
  have two : c.sp + 1 + 1 = c.sp + 2 := by rw [UInt8.add_assoc]; rfl
  simp only [pullWord, pull, stackAddress, stackSlot, two]

end Cpu

theorem storeOperand_pc {cpu : Cpu} {o : Operand} {v : UInt8} {eff : Effect}
    (h : storeOperand cpu o v = .ok eff) : eff.cpu.pc = cpu.pc := by
  cases o with
  | address a =>
    obtain ⟨s, -, rfl⟩ := Except.map_eq_ok h
    rfl
  | accumulator | none | immediate _ => cases h; rfl

/-! ## What each operation does to the program counter -/

/-- The operations that set the program counter: branches, jumps, calls, returns and `BRK`. -/
def Operation.transfersControl : Operation → Bool
  | .branch .. | .brk | .jsr | .rti | .rts | .jmp => true
  | _ => false

/-- Where an operation leaves the program counter of the processor it runs on: a control
transfer sets it, every other operation keeps it. -/
def Operation.pcAfter (op : Operation) (ins : Instruction) (cpu : Cpu) (bus : Bus) : UInt16 :=
  let stack (k : UInt8) := bus.byteAt (cpu.stackSlot k).toNat
  match op with
  | .branch f v => if cpu.flag f = v then relativeTarget cpu.pc ins.lo else cpu.pc
  | .brk => bus.vectorAt breakVector.toNat
  | .jsr => ins.word
  | .rts => wordOf (stack 1) (stack 2) + 2
  | .rti => wordOf (stack 2) (stack 3)
  | .jmp =>
    match ins.operand cpu bus with
    | .address target => target
    | _ => cpu.pc
  | _ => cpu.pc

theorem Operation.pcAfter_of_transfersControl_eq_false {op : Operation} (plain : op.transfersControl = false)
    (ins : Instruction) (cpu : Cpu) (bus : Bus) : op.pcAfter ins cpu bus = cpu.pc := by
  cases op <;> first | rfl | cases plain

/-- An operation that succeeds leaves the program counter where `Operation.pcAfter` says. -/
theorem Operation.effect_pc {op : Operation} {ins : Instruction} {cpu : Cpu} {bus : Bus}
    {eff : Effect} (h : op.effect ins cpu bus = .ok eff) : eff.cpu.pc = op.pcAfter ins cpu bus := by
  cases op with
  | load r f | compare r f | ora | bit =>
    obtain ⟨v, -, done⟩ := Except.bind_eq_ok h
    cases done
    simp [Operation.pcAfter]
  | store r =>
    obtain ⟨o, -, stored⟩ := Except.bind_eq_ok h
    exact storeOperand_pc stored
  | asl =>
    -- the shift keeps the registers the store built, apart from the status
    obtain ⟨o, -, h⟩ := Except.bind_eq_ok h
    obtain ⟨v, -, h⟩ := Except.bind_eq_ok h
    obtain ⟨stored, store, done⟩ := Except.bind_eq_ok h
    cases done
    show stored.cpu.pc = cpu.pc
    exact storeOperand_pc store
  | transfer src dst | increment r | decrement r | setFlag f v | push item | nop =>
    cases h
    simp [Operation.pcAfter]
  | pull item => cases item <;> (cases h; simp [Operation.pcAfter])
  | branch f v =>
    simp only [Operation.effect] at h
    split at h <;> cases h <;> simp_all [Operation.pcAfter]
  | brk | jsr => cases h; rfl
  | rts =>
    cases h
    show (cpu.pullWord bus).2 + 2 = _
    rw [Cpu.pullWord_word]
    rfl
  | rti =>
    -- the word sits above the status byte pulled first
    cases h
    show (({ (cpu.pull bus).1 with status := ⟨(cpu.pull bus).2⟩ } : Cpu).pullWord bus).2 = _
    rw [Cpu.pullWord_word]
    simp only [Operation.pcAfter, Cpu.stackSlot, Cpu.pull_sp, UInt8.add_assoc]
    rfl
  | jmp =>
    obtain ⟨o, resolved, h⟩ := Except.bind_eq_ok h
    obtain ⟨-, rfl⟩ := (resolve_runs cpu bus ins).of_ok resolved
    simp only [Operation.pcAfter]
    split at h <;> cases h <;> simp_all

/-! ## The documented destinations -/

/-- The opcodes that transfer control: the eight branches, then `BRK`, `JSR`, `RTI`, `RTS`,
`JMP abs` and `JMP (ind)`. -/
def controlOpcodes : List UInt8 :=
  [0x10, 0x30, 0x50, 0x70, 0x90, 0xB0, 0xD0, 0xF0, 0x00, 0x20, 0x40, 0x60, 0x4C, 0x6C]

/-- The branch opcodes, each with the flag it tests and the value of the flag that takes it. -/
def branchCondition? (opcode : UInt8) : Option (Flag × Bool) :=
  match opcode.toNat with
  | 0x10 => some (.negative, false)  -- BPL
  | 0x30 => some (.negative, true)   -- BMI
  | 0x50 => some (.overflow, false)  -- BVC
  | 0x70 => some (.overflow, true)   -- BVS
  | 0x90 => some (.carry, false)     -- BCC
  | 0xB0 => some (.carry, true)      -- BCS
  | 0xD0 => some (.zero, false)      -- BNE
  | 0xF0 => some (.zero, true)       -- BEQ
  | _ => none

/-- Where the program counter ends once the instruction at `p = cpu.pc` has run: past the
instruction, `p + size` modulo 2^16, except for the control transfers. A branch goes to
`branchTarget` when taken and to `p + 2` when not; `JMP abs` and `JSR` go to the operand word
`w`; `JMP (w)` to the word at `w`, its high byte from the same page; `RTS` to the word pulled
off the stack plus 2; `RTI` to the word pulled after the status byte; `BRK` to the word at
`$FFFE`. -/
def Machine.nextPc (cpu : Cpu) (bus : Bus) : UInt16 :=
  let p := cpu.pc
  let opcode := bus.byteAt p.toNat
  let lo := bus.byteAt (p + 1).toNat
  let word := wordOf lo (bus.byteAt (p + 2).toNat)
  let stack (k : UInt8) := bus.byteAt (0x0100 ||| (cpu.sp + k).toUInt16).toNat
  match branchCondition? opcode with
  | some (f, v) => if cpu.flag f = v then branchTarget p lo else p + 2
  | none =>
    match opcode.toNat with
    | 0x4C | 0x20 => word
    | 0x6C => wordOf (bus.byteAt word.toNat)
        (bus.byteAt ((word &&& 0xFF00) ||| ((word + 1) &&& 0x00FF)).toNat)
    | 0x60 => wordOf (stack 1) (stack 2) + 2
    | 0x40 => wordOf (stack 2) (stack 3)
    | 0x00 => bus.vectorAt 0xFFFE
    | _ => p + (Mode.nominal opcode).size.toUInt16

theorem Machine.nextPc_of_not_control {cpu : Cpu} {bus : Bus}
    (plain : bus.byteAt cpu.pc.toNat ∉ controlOpcodes) :
    Machine.nextPc cpu bus = cpu.pc + (Mode.nominal (bus.byteAt cpu.pc.toNat)).size.toUInt16 := by
  simp only [controlOpcodes, List.mem_cons, List.not_mem_nil, or_false, not_or,
    ← UInt8.toNat_inj, UInt8.reduceToNat] at plain
  have branch : branchCondition? (bus.byteAt cpu.pc.toNat) = none := by
    unfold branchCondition?
    split <;> first | rfl | omega
  unfold Machine.nextPc
  simp only [branch]
  split <;> first | rfl | omega

/-- The table sets the program counter exactly at the control opcodes. -/
theorem lookup_transfersControl_iff :
    ∀ n < 256, (lookup (UInt8.ofNat n)).operation.any Operation.transfersControl =
      decide (UInt8.ofNat n ∈ controlOpcodes) := by
  decide +kernel

theorem transfersControl_of_lookup {o : UInt8} {op : Operation} (defined : (lookup o).operation = some op) :
    op.transfersControl = decide (o ∈ controlOpcodes) := by
  have table := lookup_transfersControl_iff o.toNat o.toNat_lt
  rwa [UInt8.ofNat_toNat, defined, Option.any_some] at table

theorem not_control_of_undefined {o : UInt8} (undefined : (lookup o).operation = none) :
    o ∉ controlOpcodes := by
  have table := lookup_transfersControl_iff o.toNat o.toNat_lt
  rw [UInt8.ofNat_toNat, undefined, Option.any_none] at table
  simpa using table.symm

/-- Run on the instruction the bus holds, with the program counter moved past it, the table's
operation for the opcode ends at the documented destination. -/
theorem Operation.pcAfter_fetched {cpu : Cpu} {bus : Bus} {op : Operation}
    (defined : (lookup (bus.byteAt cpu.pc.toNat)).operation = some op) :
    op.pcAfter (Machine.fetched bus cpu.pc) (Machine.movedPast cpu bus) bus = Machine.nextPc cpu bus := by
  by_cases control : bus.byteAt cpu.pc.toNat ∈ controlOpcodes
  · -- each control opcode has one operation and one mode: once the opcode is known, both
    -- sides compute the same target from the same bytes
    unfold Machine.nextPc Machine.fetched Machine.movedPast
    dsimp only
    generalize bus.byteAt cpu.pc.toNat = o at defined control ⊢
    simp only [controlOpcodes, List.mem_cons, List.not_mem_nil, or_false] at control
    rcases control with rfl | rfl | rfl | rfl | rfl | rfl | rfl | rfl | rfl | rfl | rfl | rfl | rfl | rfl
    all_goals
      obtain rfl := Option.some.inj defined
      simp [Operation.pcAfter, branchCondition?, Mode.nominal, Mode.size, Cpu.flag,
        relativeTarget_eq_branchTarget, Instruction.operand, Instruction.word, indirectHigh, Cpu.stackSlot,
        breakVector]
  · have plain : op.transfersControl = false := by
      rw [transfersControl_of_lookup defined]
      simpa using control
    rw [op.pcAfter_of_transfersControl_eq_false plain, Machine.nextPc_of_not_control control]
    rfl

/-! ## The step -/

theorem opcodeTable_getElem? (o : UInt8) : opcodeTable[o.toNat]? = some (lookup o) := by
  simp [opcodeTable, o.toNat_lt]

theorem opcodeTable_undefined_length : (opcodeTable.filter (fun e => e.operation.isNone)).length = 194 := by
  decide +kernel

/-- Once fetched, a step that succeeds answers its opcode's cycle cost and leaves the program
counter at `Machine.nextPc`; one that fails leaves it just past the instruction. -/
theorem Machine.execute_pc_of_fetched {cpu : Cpu} {bus : Bus} (running : cpu.phase = .running)
    (fetched : firstGapIn (Machine.fetchAddresses bus cpu.pc) = none) :
    (∀ n, (Machine.execute ⟨cpu, bus⟩).2 = .ok n →
      n = (lookup (bus.byteAt cpu.pc.toNat)).cycles ∧
      (Machine.execute ⟨cpu, bus⟩).1.cpu.pc = Machine.nextPc cpu bus) ∧
    (∀ e, (Machine.execute ⟨cpu, bus⟩).2 = .error e →
      (Machine.execute ⟨cpu, bus⟩).1.cpu.pc = (Machine.movedPast cpu bus).pc) := by
  rcases Machine.execute_cases bus running with ⟨g, first, -⟩ | ⟨-, ⟨undefined, step⟩ | ⟨op, defined, ran⟩⟩
  · rw [fetched] at first
    cases first
  · -- an undefined opcode runs as a no-op past the instruction
    rw [step]
    refine ⟨fun n ok => ?_, fun e refused => by cases refused⟩
    cases ok
    exact ⟨(lookup_cycles_of_undefined undefined).symm,
      (Machine.nextPc_of_not_control (not_control_of_undefined undefined)).symm⟩
  · rcases ran with ⟨e, -, step⟩ | ⟨eff, effect, step⟩
    · rw [step]
      exact ⟨fun n ok => (by cases ok), fun _ _ => rfl⟩
    · rw [step]
      refine ⟨fun n ok => ?_, fun e refused => by cases refused⟩
      cases ok
      exact ⟨rfl, (Operation.effect_pc effect).trans (Operation.pcAfter_fetched defined)⟩

/-- A running step reads the opcode at `p` and exactly `size - 1` operand bytes after it,
modulo 2^16, so it is refused at the first gap among them and at no byte beyond. Once fetched,
a step that succeeds answers the table's cycle cost for the opcode and leaves the program
counter at `Machine.nextPc`: past the instruction, or where a control transfer sends it. A step
whose operation fails still leaves it past the instruction. Undefined opcodes, 194 of the 256,
cost 0 cycles. -/
theorem Machine.execute_pc (cpu : Cpu) (bus : Bus) (running : cpu.phase = .running) :
    Runs (Machine.fetchAt bus cpu.pc)
      ((List.range (Mode.nominal (bus.byteAt cpu.pc.toNat)).size).map (fun i => cpu.pc + i.toUInt16))
      (Machine.fetched bus cpu.pc) ∧
    (∀ ins, Machine.fetchAt bus cpu.pc = .ok ins →
      (∀ n, (Machine.execute ⟨cpu, bus⟩).2 = .ok n →
        opcodeTable[ins.opcode.toNat]?.map Opcode.cycles = some n ∧
        (Machine.execute ⟨cpu, bus⟩).1.cpu.pc = Machine.nextPc cpu bus) ∧
      (∀ e, (Machine.execute ⟨cpu, bus⟩).2 = .error e →
        (Machine.execute ⟨cpu, bus⟩).1.cpu.pc = cpu.pc + ins.mode.size.toUInt16)) ∧
    (∀ o : UInt8, (lookup o).operation = none → (lookup o).cycles = 0) ∧
    (opcodeTable.filter (fun e => e.operation.isNone)).length = 194 := by
  have fetch := Machine.fetchAt_runs bus cpu.pc
  refine ⟨fetch, fun ins ok => ?_, fun o => lookup_cycles_of_undefined, opcodeTable_undefined_length⟩
  obtain ⟨fetched, rfl⟩ := fetch.of_ok ok
  obtain ⟨succeeded, failed⟩ := Machine.execute_pc_of_fetched running fetched
  refine ⟨fun n ok => ?_, failed⟩
  obtain ⟨rfl, pc⟩ := succeeded n ok
  exact ⟨by rw [Machine.fetched_opcode, opcodeTable_getElem?]; rfl, pc⟩

/-- After a reset to `$0000` on a cleared bus, the `BRK` there is fetched, runs in 7 cycles and
ends where `Machine.nextPc` says. -/
theorem brk_from_cleared_ram_ends_at_nextPc :
    Machine.fetchAt Bus.empty 0 = .ok (Machine.fetched Bus.empty 0) ∧
    (Machine.execute ⟨Cpu.afterReset 0, Bus.empty⟩).2 = .ok 7 ∧
    (Machine.execute ⟨Cpu.afterReset 0, Bus.empty⟩).1.cpu.pc = Machine.nextPc (Cpu.afterReset 0) Bus.empty := by
  have fetch : Machine.fetchAt Bus.empty (Cpu.afterReset 0).pc = .ok (Machine.fetched Bus.empty 0) := by
    decide
  have ran : (Machine.execute ⟨Cpu.afterReset 0, Bus.empty⟩).2 = .ok 7 := by
    decide
  exact ⟨fetch, ran, (((Machine.execute_pc _ _ rfl).2.1 _ fetch).1 7 ran).2⟩

end NesMachine
