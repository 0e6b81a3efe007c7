import NesMachine.Cpu.Execute
import NesMachine.Proofs.Read
/-!
# Where a step can fail

An instruction touches memory in a fixed order: the opcode at the program counter, the operand
bytes after it, then the operation's pointer bytes and its data byte. Only a gap refuses an
access, so a step that fails reports the first of these addresses that lies in a gap, and
nothing else: never an out-of-range, region-overflow, empty-write or graphics error.

`FailsFirstAt x addrs` says that the computation `x` is refused exactly at the first gap of
`addrs`, with `Unmapped`. It composes like a program logic (`FailsFirstAt.bind`), so each
operation gets it from its parts, and the step from its fetch and its operation:

* `Operation.effect_failsFirstAt`: an operation fails at the first gap of `Operation.accesses`;
* `Machine.fetchAt_runs`: the fetch fails at the first gap of `Machine.fetchAddresses`, and
  otherwise returns the bytes it read;
* `Machine.execute_refusal_eq`, `Machine.execute_error_state`: the step fails at the first gap of
  `Machine.stepAccesses`, leaving the bus as it was and the processor as it was or moved past the
  instruction;
* `Machine.execute_ok_of_mapped`: stack slots, page zero and the vectors are never in a gap, so
  the stack instructions and the page-zero forms succeed once fetched;
* `Machine.execute_failure`: all of that together.
-/

namespace NesMachine

/-! ## Failing at the first gap -/

/-- The error a computation stops with, if it does. -/
def refusal {ε α : Type} : Except ε α → Option ε
  | .error e => some e
  | .ok _ => none

/-- The first of `addrs`, in order, that lies in a gap. -/
def firstGapIn (addrs : List UInt16) : Option UInt16 :=
  addrs.find? (fun a => InGap a.toNat)

/-- `x` is refused exactly at the first gap address of `addrs`, with `Unmapped`. -/
def FailsFirstAt {α : Type} (x : Except BusError α) (addrs : List UInt16) : Prop :=
  refusal x = (firstGapIn addrs).map BusError.unmapped

theorem firstGapIn_append (xs ys : List UInt16) :
    firstGapIn (xs ++ ys) = (firstGapIn xs).or (firstGapIn ys) := by
  simp [firstGapIn, List.find?_append]

theorem firstGapIn_eq_none {addrs : List UInt16} (mapped : ∀ a ∈ addrs, ¬ InGap a.toNat) :
    firstGapIn addrs = none := by
  simpa [firstGapIn, List.find?_eq_none] using mapped

/-- Addresses below `$2008` lie in no gap: page zero, the stack and all of RAM among them. -/
theorem not_inGap_of_lt {a : Nat} (h : a < 0x2008) : ¬ InGap a := by
  unfold InGap; omega

/-- `x` is refused exactly at the first gap address of `addrs`, and otherwise answers `v`. -/
def Runs {α : Type} (x : Except BusError α) (addrs : List UInt16) (v : α) : Prop :=
  x = match firstGapIn addrs with
    | some g => .error (.unmapped g)
    | none => .ok v

namespace Runs

variable {α β : Type} {x : Except BusError α} {as bs : List UInt16} {a : α}

theorem pure (a : α) : Runs (Except.ok a : Except BusError α) [] a := rfl

theorem failsFirstAt (hx : Runs x as a) : FailsFirstAt x as := by
  unfold Runs at hx
  rw [FailsFirstAt, hx]
  cases firstGapIn as <;> rfl

/-- Running `f` on what `x` answers: the accesses of `x`, then those of `f`. -/
theorem bind {f : α → Except BusError β} {b : β} (hx : Runs x as a) (hf : Runs (f a) bs b) :
    Runs (x >>= f) (as ++ bs) b := by
  unfold Runs at hx hf ⊢
  rw [firstGapIn_append, hx]
  cases firstGapIn as with
  | some g => rfl
  | none => exact hf

theorem bind_failsFirstAt {f : α → Except BusError β} (hx : Runs x as a)
    (hf : FailsFirstAt (f a) bs) : FailsFirstAt (x >>= f) (as ++ bs) := by
  unfold Runs at hx
  unfold FailsFirstAt at hf ⊢
  rw [firstGapIn_append, hx]
  cases firstGapIn as with
  | some g => rfl
  | none => exact hf

theorem map {f : α → β} (hx : Runs x as a) : Runs (f <$> x) as (f a) := by
  unfold Runs at hx ⊢
  rw [hx]
  cases firstGapIn as <;> rfl

/-- Accesses that never fail may stand in front of the others. -/
theorem mapped_append (hx : Runs x as a) (mapped : ∀ addr ∈ bs, ¬ InGap addr.toNat) :
    Runs x (bs ++ as) a := by
  unfold Runs at hx ⊢
  rw [firstGapIn_append, firstGapIn_eq_none mapped, Option.none_or]
  exact hx

theorem congr_addrs (hx : Runs x as a) (same : as = bs) : Runs x bs a :=
  same ▸ hx

/-- A computation that succeeds met no gap among its accesses and answered its value. -/
theorem of_ok {v : α} (hx : Runs x as a) (ok : x = .ok v) : firstGapIn as = none ∧ v = a := by
  unfold Runs at hx
  rw [ok] at hx
  split at hx
  · cases hx
  · exact ⟨‹_›, Except.ok.inj hx⟩

end Runs

theorem FailsFirstAt.pure {α : Type} (a : α) : FailsFirstAt (Except.ok a : Except BusError α) [] :=
  rfl

theorem FailsFirstAt.bind {α β : Type} {x : Except BusError α} {f : α → Except BusError β}
    {as bs : List UInt16} (hx : FailsFirstAt x as) (hf : ∀ a, x = .ok a → FailsFirstAt (f a) bs) :
    FailsFirstAt (x >>= f) (as ++ bs) := by
  unfold FailsFirstAt at hx ⊢
  rw [firstGapIn_append]
  cases h : x with
  | error e =>
    rw [h] at hx
    obtain ⟨g, first, rfl⟩ := Option.map_eq_some_iff.1 hx.symm
    rw [first]
    rfl
  | ok a =>
    rw [h] at hx
    have none : firstGapIn as = none := by simpa [refusal] using hx.symm
    rw [none, Option.none_or]
    exact hf a h

theorem FailsFirstAt.map {α β : Type} {x : Except BusError α} {f : α → β} {as : List UInt16}
    (hx : FailsFirstAt x as) : FailsFirstAt (f <$> x) as := by
  unfold FailsFirstAt at hx ⊢
  cases x <;> simpa [refusal, Functor.map, Except.map] using hx

/-- What follows the last access that can fail cannot fail either. -/
theorem FailsFirstAt.bind_pure {α β : Type} {x : Except BusError α} {g : α → β} {as : List UInt16}
    (hx : FailsFirstAt x as) : FailsFirstAt (x >>= fun a => Pure.pure (g a)) as := by
  unfold FailsFirstAt at hx ⊢
  cases x <;> exact hx

/-- A computation that succeeds fails first at a list of addresses none of which is a gap. -/
theorem FailsFirstAt.of_ok {α : Type} {x : Except BusError α} {as : List UInt16} {a : α}
    (h : x = .ok a) (mapped : ∀ addr ∈ as, ¬ InGap addr.toNat) : FailsFirstAt x as := by
  rw [FailsFirstAt, h, firstGapIn_eq_none mapped]
  rfl

/-! ## Bytes and pointers -/

theorem Bus.readByte_of_inGap {bus : Bus} {a : UInt16} (gap : InGap a.toNat) :
    bus.readByte a = .error (.unmapped a) := by
  rw [Bus.readByte_eq, Region.ofAddress?_eq_none_iff.2 (.inl gap)]

theorem Bus.readByte_of_not_inGap {bus : Bus} {a : UInt16} (mapped : ¬ InGap a.toNat) :
    bus.readByte a = .ok (bus.byteAt a.toNat) := by
  have found := (Region.ofAddress?_isSome_iff a.toNat_lt).2 mapped
  obtain ⟨r, hr⟩ := Option.isSome_iff_exists.1 found
  rw [Bus.readByte_eq, hr]

theorem Bus.readByte_runs (bus : Bus) (a : UInt16) : Runs (bus.readByte a) [a] (bus.byteAt a.toNat) := by
  by_cases gap : InGap a.toNat
  · simp [Runs, firstGapIn, gap, Bus.readByte_of_inGap gap]
  · simp [Runs, firstGapIn, gap, Bus.readByte_of_not_inGap gap]

/-- A page-zero address, as the pointer modes form it. -/
theorem UInt8.toUInt16_toNat_lt (b : UInt8) : b.toUInt16.toNat < 0x100 := by
  simpa using b.toNat_lt

/-- A page-zero pointer never fails: both of its bytes are in RAM. -/
theorem Bus.zeroPagePointer_eq (bus : Bus) (base : UInt8) :
    bus.zeroPagePointer base =
      .ok (wordOf (bus.byteAt base.toUInt16.toNat) (bus.byteAt (base + 1).toUInt16.toNat)) := by
  have lo := UInt8.toUInt16_toNat_lt base
  have hi := UInt8.toUInt16_toNat_lt (base + 1)
  have readLo := bus.readByte_of_not_inGap (not_inGap_of_lt (show base.toUInt16.toNat < 0x2008 by omega))
  have readHi := bus.readByte_of_not_inGap
    (not_inGap_of_lt (show (base + 1).toUInt16.toNat < 0x2008 by omega))
  rw [Bus.zeroPagePointer, readLo, readHi]
  rfl

/-- The page-zero pointer's bytes: `base` and `base + 1` modulo 256. -/
def zeroPagePointerAddresses (base : UInt8) : List UInt16 :=
  [base.toUInt16, (base + 1).toUInt16]

theorem zeroPagePointerAddresses_mapped (base : UInt8) :
    ∀ a ∈ zeroPagePointerAddresses base, ¬ InGap a.toNat := by
  intro a mem
  simp only [zeroPagePointerAddresses, List.mem_cons, List.not_mem_nil, or_false] at mem
  rcases mem with rfl | rfl
  · exact not_inGap_of_lt (by have := UInt8.toUInt16_toNat_lt base; omega)
  · exact not_inGap_of_lt (by have := UInt8.toUInt16_toNat_lt (base + 1); omega)

/-- A page-zero pointer reads its two bytes, neither of which can fail. -/
theorem Bus.zeroPagePointer_runs (bus : Bus) (base : UInt8) :
    Runs (bus.zeroPagePointer base) (zeroPagePointerAddresses base)
      (wordOf (bus.byteAt base.toUInt16.toNat) (bus.byteAt (base + 1).toUInt16.toNat)) := by
  rw [bus.zeroPagePointer_eq]
  exact ((Runs.pure _).mapped_append (zeroPagePointerAddresses_mapped base)).congr_addrs
    (List.append_nil _)

/-- The second pointer byte of `JMP (addr)`: the same page as `addr`. -/
def indirectHigh (addr : UInt16) : UInt16 :=
  (addr &&& 0xFF00) ||| ((addr + 1) &&& 0x00FF)

theorem Bus.indirectPointer_runs (bus : Bus) (addr : UInt16) :
    Runs (bus.indirectPointer addr) [addr, indirectHigh addr]
      (wordOf (bus.byteAt addr.toNat) (bus.byteAt (indirectHigh addr).toNat)) := by
  unfold Bus.indirectPointer
  exact (bus.readByte_runs addr).bind ((bus.readByte_runs (indirectHigh addr)).bind (Runs.pure _))

/-! ## Operands -/

/-- The pointer bytes an instruction's mode reads, in order: the two bytes of `JMP (addr)`,
or the two page-zero bytes of `(zp,X)` and `(zp),Y`. -/
def Instruction.pointerAddresses (ins : Instruction) (cpu : Cpu) : List UInt16 :=
  match ins.mode with
  | .indirect => [ins.word, indirectHigh ins.word]
  | .indirectX => zeroPagePointerAddresses (ins.lo + cpu.x)
  | .indirectY => zeroPagePointerAddresses ins.lo
  | _ => []

/-- The operand an instruction designates, reading pointer bytes as the bus holds them. -/
def Instruction.operand (ins : Instruction) (cpu : Cpu) (bus : Bus) : Operand :=
  let pointer (base : UInt8) :=
    wordOf (bus.byteAt base.toUInt16.toNat) (bus.byteAt (base + 1).toUInt16.toNat)
  match ins.mode with
  | .implied => .none
  | .accumulator => .accumulator
  | .immediate => .immediate ins.lo
  | .zeroPage => .address ins.lo.toUInt16
  | .zeroPageX => .address (ins.lo + cpu.x).toUInt16
  | .zeroPageY => .address (ins.lo + cpu.y).toUInt16
  | .relative => .address (relativeTarget cpu.pc ins.lo)
  | .absolute => .address ins.word
  | .absoluteX => .address (ins.word + cpu.x.toUInt16)
  | .absoluteY => .address (ins.word + cpu.y.toUInt16)
  | .indirect =>
    .address (wordOf (bus.byteAt ins.word.toNat) (bus.byteAt (indirectHigh ins.word).toNat))
  | .indirectX => .address (pointer (ins.lo + cpu.x))
  | .indirectY => .address (pointer ins.lo + cpu.y.toUInt16)

/-- The memory byte an operand designates, if any. -/
def Operand.addresses : Operand → List UInt16
  | .address a => [a]
  | _ => []

/-- The byte an operand designates, as the bus holds it. -/
def Operand.value (cpu : Cpu) (bus : Bus) : Operand → UInt8
  | .none => 0
  | .accumulator => cpu.a
  | .immediate v => v
  | .address a => bus.byteAt a.toNat

theorem resolve_runs (cpu : Cpu) (bus : Bus) (ins : Instruction) :
    Runs (resolve cpu bus ins) (ins.pointerAddresses cpu) (ins.operand cpu bus) := by
  cases mode : ins.mode <;> simp only [resolve, Instruction.pointerAddresses, Instruction.operand, mode]
  case indirect => exact (bus.indirectPointer_runs _).map
  case indirectX => exact (bus.zeroPagePointer_runs _).map
  case indirectY => exact (bus.zeroPagePointer_runs _).map
  all_goals rfl

theorem readOperand_runs (cpu : Cpu) (bus : Bus) (o : Operand) :
    Runs (readOperand cpu bus o) o.addresses (o.value cpu bus) := by
  cases o with
  | address a => exact bus.readByte_runs a
  | _ => rfl

/-! ## Stores -/

/-- A one-byte store passes the bus's checks exactly where the address is mapped. -/
theorem storeChecked_runs (a : UInt16) (v : UInt8) : Runs (storeChecked a v) [a] (a, v) := by
  have fits : a.toNat + 1 ≤ 0x10000 := a.toNat_lt
  have within : ¬ 0x10000 < a.toNat + 1 := by omega
  by_cases gap : InGap a.toNat
  · have first : firstGap a.toNat 1 = some a.toNat :=
      firstGap_eq_some_iff.2 ⟨le_rfl, by omega, gap, fun x lo hi => by omega⟩
    have split := (segments_eq_error_iff fits).2 first
    simp [Runs, firstGapIn, gap, storeChecked, Bus.writePlan, split, within]
  · have none : firstGap a.toNat 1 = none :=
      firstGap_eq_none_iff.2 (fun x lo hi => by rwa [show x = a.toNat by omega])
    obtain ⟨segs, split⟩ := (segments_eq_ok_iff fits).2 none
    simp [Runs, firstGapIn, gap, storeChecked, Bus.writePlan, split, within]

theorem storeOperand_failsFirstAt (cpu : Cpu) (o : Operand) (v : UInt8) :
    FailsFirstAt (storeOperand cpu o v) o.addresses := by
  cases o with
  | address a => exact (storeChecked_runs a v).failsFirstAt.map
  | _ => rfl

/-! ## Operations -/

/-- The addresses a load or compare reads: the mode's pointer bytes and the operand's byte, or
the unindexed absolute address for `LDA $BD` and `CMP $DD`. -/
def Fetch.addresses (f : Fetch) (ins : Instruction) (cpu : Cpu) (bus : Bus) : List UInt16 :=
  match f with
  | .operand => ins.pointerAddresses cpu ++ (ins.operand cpu bus).addresses
  | .baseIndexed => [ins.word]

/-- The value a load or compare uses, as the bus holds it. -/
def Fetch.value (f : Fetch) (ins : Instruction) (cpu : Cpu) (bus : Bus) : UInt8 :=
  match f with
  | .operand => (ins.operand cpu bus).value cpu bus
  | .baseIndexed => bus.byteAt ins.word.toNat + cpu.x

theorem fetchValue_runs (cpu : Cpu) (bus : Bus) (ins : Instruction) (f : Fetch) :
    Runs (fetchValue cpu bus ins f) (f.addresses ins cpu bus) (f.value ins cpu bus) := by
  cases f with
  | operand => exact (resolve_runs cpu bus ins).bind (readOperand_runs cpu bus _)
  | baseIndexed => exact (bus.readByte_runs ins.word).map

/-- Page one's byte `k` places above the stack pointer, modulo 256. -/
def Cpu.stackSlot (c : Cpu) (k : UInt8) : UInt16 :=
  0x0100 ||| (c.sp + k).toUInt16

theorem stack_not_inGap (x : UInt8) : ¬ InGap (0x0100 ||| x.toUInt16).toNat := by
  apply not_inGap_of_lt
  have low : x.toUInt16.toNat < 2 ^ 9 := by have := UInt8.toUInt16_toNat_lt x; omega
  have page : (0x0100 : UInt16).toNat < 2 ^ 9 := by decide
  have := Nat.or_lt_two_pow page low
  rw [UInt16.toNat_or]
  omega

/-- The addresses an operation reads or writes, in the order it does: its pointer bytes, its
data byte (twice for a read-modify-write), the stack slots it moves through and the vector
`BRK` reads. `cpu` is the processor after the program counter has moved past the instruction. -/
def Operation.accesses (op : Operation) (ins : Instruction) (cpu : Cpu) (bus : Bus) :
    List UInt16 :=
  let data := ins.pointerAddresses cpu ++ (ins.operand cpu bus).addresses
  match op with
  | .load _ f | .compare _ f => f.addresses ins cpu bus
  | .ora | .bit | .store _ => data
  | .asl => data ++ (ins.operand cpu bus).addresses
  | .push _ => [cpu.stackSlot 0]
  | .pull _ => [cpu.stackSlot 1]
  | .brk => [breakVector, breakVector + 1, cpu.stackSlot 0, cpu.stackSlot 255, cpu.stackSlot 254]
  | .jsr => [cpu.stackSlot 0, cpu.stackSlot 255]
  | .rts => [cpu.stackSlot 1, cpu.stackSlot 2]
  | .rti => [cpu.stackSlot 1, cpu.stackSlot 2, cpu.stackSlot 3]
  | .jmp => ins.pointerAddresses cpu
  | .transfer .. | .increment _ | .decrement _ | .setFlag .. | .branch .. | .nop => []

/-- An operation is refused exactly at the first gap among its accesses: every refusal comes
from a read or from the check of its one non-stack store, and these happen in that order. -/
theorem Operation.effect_failsFirstAt (op : Operation) (ins : Instruction) (cpu : Cpu) (bus : Bus) :
    FailsFirstAt (op.effect ins cpu bus) (op.accesses ins cpu bus) := by
  have slot : ∀ k, ¬ InGap (cpu.stackSlot k).toNat := fun k => stack_not_inGap _
  cases op with
  | load r f => exact (fetchValue_runs cpu bus ins f).failsFirstAt.bind_pure
  | compare r f => exact (fetchValue_runs cpu bus ins f).failsFirstAt.bind_pure
  | ora => exact (fetchValue_runs cpu bus ins .operand).failsFirstAt.bind_pure
  | bit => exact (fetchValue_runs cpu bus ins .operand).failsFirstAt.bind_pure
  | store r => exact (resolve_runs cpu bus ins).bind_failsFirstAt (storeOperand_failsFirstAt cpu _ _)
  | asl =>
    -- read the operand, then store the shifted byte at the same place
    simp only [Operation.effect, Operation.accesses, List.append_assoc]
    refine (resolve_runs cpu bus ins).bind_failsFirstAt ?_
    refine (readOperand_runs cpu bus _).bind_failsFirstAt ?_
    exact (storeOperand_failsFirstAt cpu _ _).bind_pure
  | jmp =>
    simp only [Operation.effect, Operation.accesses]
    rw [← List.append_nil (ins.pointerAddresses cpu)]
    refine (resolve_runs cpu bus ins).bind_failsFirstAt ?_
    split <;> exact FailsFirstAt.pure _
  | branch f v =>
    simp only [Operation.effect]
    split <;> exact FailsFirstAt.pure _
  | push item => exact FailsFirstAt.of_ok rfl (by simp [Operation.accesses, slot])
  | pull item => cases item <;> exact FailsFirstAt.of_ok rfl (by simp [Operation.accesses, slot])
  | brk =>
    exact FailsFirstAt.of_ok rfl (fun a mem => by
      simp only [Operation.accesses, List.mem_cons, List.not_mem_nil, or_false] at mem
      rcases mem with rfl | rfl | rfl | rfl | rfl
      all_goals first | exact slot _ | decide)
  | jsr => exact FailsFirstAt.of_ok rfl (by simp [Operation.accesses, slot])
  | rts => exact FailsFirstAt.of_ok rfl (by simp [Operation.accesses, slot])
  | rti => exact FailsFirstAt.of_ok rfl (by simp [Operation.accesses, slot])
  | transfer src dst => exact FailsFirstAt.pure _
  | increment r => exact FailsFirstAt.pure _
  | decrement r => exact FailsFirstAt.pure _
  | setFlag f v => exact FailsFirstAt.pure _
  | nop => exact FailsFirstAt.pure _

/-! ## The fetch -/

/-- The addresses the fetch reads: the opcode's and, modulo 2^16, as many after it as the
decoder's mode for the opcode says. -/
def Machine.fetchAddresses (bus : Bus) (pc : UInt16) : List UInt16 :=
  (List.range (Mode.nominal (bus.byteAt pc.toNat)).size).map (fun i => pc + i.toUInt16)

/-- The instruction at `pc` as the bus holds it: the opcode, its decoder mode, and the operand
bytes its size takes (0 for those it does not). -/
def Machine.fetched (bus : Bus) (pc : UInt16) : Instruction :=
  let opcode := bus.byteAt pc.toNat
  let size := (Mode.nominal opcode).size
  ⟨opcode, Mode.nominal opcode, if 2 ≤ size then bus.byteAt (pc + 1).toNat else 0,
    if 3 ≤ size then bus.byteAt (pc + 2).toNat else 0⟩

theorem Machine.fetchAt_runs (bus : Bus) (pc : UInt16) :
    Runs (Machine.fetchAt bus pc) (Machine.fetchAddresses bus pc) (Machine.fetched bus pc) := by
  unfold Machine.fetchAt
  simp only [Opcode.size, Opcode.mode, lookup_byte]
  -- the opcode's size decides how many operand bytes follow it
  rcases Mode.size_cases (Mode.nominal (bus.byteAt pc.toNat)) with size | size | size
  · have addresses : Machine.fetchAddresses bus pc = [pc] ++ [] := by
      simp [Machine.fetchAddresses, size]
    rw [addresses]
    refine (bus.readByte_runs pc).bind ?_
    simp only [size, Machine.fetched]
    exact Runs.pure _
  · have addresses : Machine.fetchAddresses bus pc = [pc] ++ ([pc + 1] ++ []) := by
      simp [Machine.fetchAddresses, size, List.range_succ]
    rw [addresses]
    refine (bus.readByte_runs pc).bind ?_
    simp only [size, Machine.fetched]
    refine (bus.readByte_runs (pc + 1)).bind ?_
    exact Runs.pure _
  · have addresses : Machine.fetchAddresses bus pc = [pc] ++ ([pc + 1] ++ ([pc + 2] ++ [])) := by
      simp [Machine.fetchAddresses, size, List.range_succ]
    rw [addresses]
    refine (bus.readByte_runs pc).bind ?_
    simp only [size, Machine.fetched]
    refine (bus.readByte_runs (pc + 1)).bind ?_
    refine (bus.readByte_runs (pc + 2)).bind ?_
    exact Runs.pure _

/-! ## The step -/

/-- The processor once the program counter has moved past the instruction at `pc`. -/
def Machine.movedPast (cpu : Cpu) (bus : Bus) : Cpu :=
  { cpu with pc := cpu.pc + (Mode.nominal (bus.byteAt cpu.pc.toNat)).size.toUInt16 }

/-- Everything a step reads or writes, in order: the fetch, then the operation, run on the
processor moved past the instruction. An undefined opcode runs nothing. -/
def Machine.stepAccesses (cpu : Cpu) (bus : Bus) : List UInt16 :=
  let ins := Machine.fetched bus cpu.pc
  Machine.fetchAddresses bus cpu.pc ++ match (lookup ins.opcode).operation with
    | some op => op.accesses ins (Machine.movedPast cpu bus) bus
    | none => []

theorem Machine.fetched_opcode (bus : Bus) (pc : UInt16) :
    (Machine.fetched bus pc).opcode = bus.byteAt pc.toNat := rfl

/-- What a running step does: it stops at the fetch's first gap and changes nothing; or it
moves the program counter past the instruction and runs the operation, which either stops with
its error and stores nothing, or returns the new registers and its stores, and the step
answers the opcode's cycle cost (0 when undefined). -/
theorem Machine.execute_cases {cpu : Cpu} (bus : Bus) (running : cpu.phase = .running) :
    (∃ g, firstGapIn (Machine.fetchAddresses bus cpu.pc) = some g ∧
      Machine.execute ⟨cpu, bus⟩ = (⟨cpu, bus⟩, .error (.bus (.unmapped g)))) ∨
    (firstGapIn (Machine.fetchAddresses bus cpu.pc) = none ∧
      (((lookup (bus.byteAt cpu.pc.toNat)).operation = none ∧
        Machine.execute ⟨cpu, bus⟩ = (⟨Machine.movedPast cpu bus, bus⟩, .ok 0)) ∨
      ∃ op, (lookup (bus.byteAt cpu.pc.toNat)).operation = some op ∧
        ((∃ e, op.effect (Machine.fetched bus cpu.pc) (Machine.movedPast cpu bus) bus = .error e ∧
          Machine.execute ⟨cpu, bus⟩ = (⟨Machine.movedPast cpu bus, bus⟩, .error (.bus e))) ∨
        (∃ eff, op.effect (Machine.fetched bus cpu.pc) (Machine.movedPast cpu bus) bus = .ok eff ∧
          Machine.execute ⟨cpu, bus⟩ =
            (⟨eff.cpu, bus.storeAll eff.stores⟩, .ok (lookup (bus.byteAt cpu.pc.toNat)).cycles))))) := by
  have fetch := Machine.fetchAt_runs bus cpu.pc
  unfold Runs at fetch
  have size : (lookup (bus.byteAt cpu.pc.toNat)).size = (Mode.nominal (bus.byteAt cpu.pc.toNat)).size := by
    simp only [Opcode.size, Opcode.mode, lookup_byte]
  -- rewriting with `running` itself would also rewrite the phase kept in the moved processor
  have started : (cpu.phase != Phase.running) = false := by rw [running]; rfl
  cases first : firstGapIn (Machine.fetchAddresses bus cpu.pc) with
  | some g =>
    rw [first] at fetch
    exact .inl ⟨g, rfl, by simp [Machine.execute, started, fetch]⟩
  | none =>
    rw [first] at fetch
    refine .inr ⟨rfl, ?_⟩
    -- past the fetch, the step is decided by the operation and then by its effect; each case
    -- is read off the definition once both are known
    cases operation : (lookup (bus.byteAt cpu.pc.toNat)).operation with
    | none =>
      refine .inl ⟨rfl, ?_⟩
      simp only [Machine.execute, started, Bool.false_eq_true, if_false, fetch, Machine.fetched_opcode,
        size, operation, Machine.movedPast]
    | some op =>
      refine .inr ⟨op, rfl, ?_⟩
      cases effect : op.effect (Machine.fetched bus cpu.pc) (Machine.movedPast cpu bus) bus with
      | error e =>
        refine .inl ⟨e, rfl, ?_⟩
        simp only [Machine.movedPast] at effect
        simp only [Machine.execute, started, Bool.false_eq_true, if_false, fetch, Machine.fetched_opcode,
          size, operation, effect, Machine.movedPast]
      | ok eff =>
        refine .inr ⟨eff, rfl, ?_⟩
        simp only [Machine.movedPast] at effect
        simp only [Machine.execute, started, Bool.false_eq_true, if_false, fetch, Machine.fetched_opcode,
          size, operation, effect]

theorem Machine.execute_of_reset {cpu : Cpu} {bus : Bus} (reset : cpu.phase = .reset) :
    Machine.execute ⟨cpu, bus⟩ = (⟨cpu, bus⟩, .error .notReset) := by
  simp [Machine.execute, reset]

/-- A running step is refused exactly at the first gap among its accesses, with `Unmapped`. -/
theorem Machine.execute_refusal_eq {cpu : Cpu} {bus : Bus} (running : cpu.phase = .running) :
    refusal (Machine.execute ⟨cpu, bus⟩).2 =
      (firstGapIn (Machine.stepAccesses cpu bus)).map (fun g => .bus (.unmapped g)) := by
  rcases Machine.execute_cases bus running with ⟨g, first, step⟩ | ⟨first, ⟨undefined, step⟩ | ⟨op, defined, ran⟩⟩
  · simp [step, refusal, Machine.stepAccesses, firstGapIn_append, first]
  · simp [step, refusal, Machine.stepAccesses, first, Machine.fetched_opcode, undefined]
  · have fails := Operation.effect_failsFirstAt op (Machine.fetched bus cpu.pc) (Machine.movedPast cpu bus) bus
    unfold FailsFirstAt at fails
    have accesses : firstGapIn (Machine.stepAccesses cpu bus) =
        firstGapIn (op.accesses (Machine.fetched bus cpu.pc) (Machine.movedPast cpu bus) bus) := by
      simp [Machine.stepAccesses, firstGapIn_append, first, Machine.fetched_opcode, defined]
    rw [accesses]
    rcases ran with ⟨e, effect, step⟩ | ⟨eff, effect, step⟩
    · rw [effect] at fails
      obtain ⟨g, gap, rfl⟩ := Option.map_eq_some_iff.1 fails.symm
      simp [step, refusal, gap]
    · rw [effect] at fails
      have none : firstGapIn (op.accesses (Machine.fetched bus cpu.pc) (Machine.movedPast cpu bus) bus) =
          none := by simpa [refusal] using fails.symm
      simp [step, refusal, none]

/-- A refused step leaves the bus as it was, and the processor as it was when the fetch was
refused, or moved past the instruction when the operation was. -/
theorem Machine.execute_error_state {cpu : Cpu} {bus : Bus} {e : CpuError}
    (running : cpu.phase = .running) (refused : (Machine.execute ⟨cpu, bus⟩).2 = .error e) :
    ((Machine.execute ⟨cpu, bus⟩).1 = ⟨cpu, bus⟩ ∧
      (firstGapIn (Machine.fetchAddresses bus cpu.pc)).isSome) ∨
    ((Machine.execute ⟨cpu, bus⟩).1 = ⟨Machine.movedPast cpu bus, bus⟩ ∧
      firstGapIn (Machine.fetchAddresses bus cpu.pc) = none) := by
  rcases Machine.execute_cases bus running with ⟨g, first, step⟩ | ⟨first, ⟨undefined, step⟩ | ⟨op, defined, ran⟩⟩
  · exact .inl ⟨by rw [step], by simp [first]⟩
  · rw [step] at refused; cases refused
  · rcases ran with ⟨e', effect, step⟩ | ⟨eff, effect, step⟩
    · exact .inr ⟨by rw [step], first⟩
    · rw [step] at refused; cases refused

/-! ## Accesses that cannot fail -/

theorem Cpu.stackSlot_not_inGap (c : Cpu) (k : UInt8) : ¬ InGap (c.stackSlot k).toNat :=
  stack_not_inGap _

/-- Stack slots and the `BRK` vector lie in RAM and in the cartridge window. -/
theorem Cpu.stack_or_vector_not_inGap (cpu : Cpu) :
    ∀ a, (∃ k, a = cpu.stackSlot k) ∨ a = breakVector ∨ a = breakVector + 1 → ¬ InGap a.toNat := by
  rintro a (⟨k, rfl⟩ | rfl | rfl)
  · exact cpu.stackSlot_not_inGap k
  · decide
  · decide

/-- The operations that touch nothing but the stack and the `BRK` vector. -/
def stackOperations : List Operation :=
  [.push .accumulator, .push .status, .pull .accumulator, .pull .status, .jsr, .rts, .brk, .rti]

theorem Operation.accesses_mapped_of_stack {op : Operation} (stackOp : op ∈ stackOperations)
    (ins : Instruction) (cpu : Cpu) (bus : Bus) : ∀ a ∈ op.accesses ins cpu bus, ¬ InGap a.toNat := by
  have stack := Cpu.stack_or_vector_not_inGap cpu
  intro a mem
  simp only [stackOperations, List.mem_cons, List.not_mem_nil, or_false] at stackOp
  apply stack
  rcases stackOp with rfl | rfl | rfl | rfl | rfl | rfl | rfl | rfl <;>
    simp only [Operation.accesses, List.mem_cons, List.not_mem_nil, or_false] at mem <;>
    rcases mem with rfl | rfl | rfl | rfl | rfl
  all_goals first | exact .inl ⟨_, rfl⟩ | exact .inr (.inl rfl) | exact .inr (.inr rfl)

/-- An operation reads only its mode's pointer bytes, its operand's byte, the unindexed word
of `$BD`/`$DD`, stack slots and the `BRK` vector; where the first three are mapped, all are. -/
theorem Operation.accesses_mapped (op : Operation) (ins : Instruction) (cpu : Cpu) (bus : Bus)
    (pointers : ∀ a ∈ ins.pointerAddresses cpu, ¬ InGap a.toNat)
    (operand : ∀ a ∈ (ins.operand cpu bus).addresses, ¬ InGap a.toNat)
    (word : ¬ InGap ins.word.toNat) :
    ∀ a ∈ op.accesses ins cpu bus, ¬ InGap a.toNat := by
  have data : ∀ a ∈ ins.pointerAddresses cpu ++ (ins.operand cpu bus).addresses, ¬ InGap a.toNat := by
    intro a mem
    rcases List.mem_append.1 mem with mem | mem
    · exact pointers a mem
    · exact operand a mem
  have fetch : ∀ f : Fetch, ∀ a ∈ f.addresses ins cpu bus, ¬ InGap a.toNat := by
    intro f a mem
    cases f with
    | operand => exact data a mem
    | baseIndexed => rw [List.mem_singleton.1 mem]; exact word
  intro a mem
  cases op with
  | load r f => exact fetch f a mem
  | compare r f => exact fetch f a mem
  | ora => exact data a mem
  | bit => exact data a mem
  | store r => exact data a mem
  | asl =>
    rcases List.mem_append.1 mem with mem | mem
    · exact data a mem
    · exact operand a mem
  | jmp => exact pointers a mem
  | push item | pull item =>
    exact Operation.accesses_mapped_of_stack (by cases item <;> simp [stackOperations]) ins cpu bus a mem
  | jsr | rts | rti | brk =>
    exact Operation.accesses_mapped_of_stack (by simp [stackOperations]) ins cpu bus a mem
  | transfer src dst => cases mem
  | increment r => cases mem
  | decrement r => cases mem
  | setFlag f v => cases mem
  | branch f v => cases mem
  | nop => cases mem

/-- A fetched page-zero instruction reads page zero only, apart from the stack and the vector:
its mode has no pointer, its operand is a page-zero address and its high operand byte is 0. -/
theorem Operation.accesses_mapped_of_zeroPage (op : Operation) {bus : Bus} {pc : UInt16} (cpu : Cpu)
    (zp : Mode.nominal (bus.byteAt pc.toNat) = .zeroPage ∨ Mode.nominal (bus.byteAt pc.toNat) = .zeroPageX) :
    ∀ a ∈ op.accesses (Machine.fetched bus pc) cpu bus, ¬ InGap a.toNat := by
  have mode : (Machine.fetched bus pc).mode = Mode.nominal (bus.byteAt pc.toNat) := rfl
  have two : (Mode.nominal (bus.byteAt pc.toNat)).size = 2 := by rcases zp with m | m <;> rw [m] <;> rfl
  have page : ∀ b : UInt8, ¬ InGap b.toUInt16.toNat := fun b =>
    not_inGap_of_lt (by have := UInt8.toUInt16_toNat_lt b; omega)
  apply op.accesses_mapped
  · rcases zp with m | m <;> simp [Instruction.pointerAddresses, mode, m]
  · rcases zp with m | m <;> simp only [Instruction.operand, mode, m, Operand.addresses,
      List.mem_singleton, forall_eq] <;> exact page _
  · -- the high operand byte of a two-byte instruction is 0, so the word is the low byte
    have word : (Machine.fetched bus pc).word = (Machine.fetched bus pc).lo.toUInt16 := by
      simp only [Machine.fetched, Instruction.word, wordOf, two]
      simp
    rw [word]
    exact page _

theorem lookup_cycles_of_undefined {b : UInt8} (undefined : (lookup b).operation = none) :
    (lookup b).cycles = 0 := by
  unfold lookup at undefined ⊢
  split <;> simp_all

/-- Once fetched, a step whose operation touches only mapped addresses succeeds and answers the
opcode's cycle cost. -/
theorem Machine.execute_ok_of_mapped {cpu : Cpu} {bus : Bus} (running : cpu.phase = .running)
    (fetched : firstGapIn (Machine.fetchAddresses bus cpu.pc) = none)
    (mapped : ∀ op, (lookup (bus.byteAt cpu.pc.toNat)).operation = some op →
      ∀ a ∈ op.accesses (Machine.fetched bus cpu.pc) (Machine.movedPast cpu bus) bus, ¬ InGap a.toNat) :
    (Machine.execute ⟨cpu, bus⟩).2 = .ok (lookup (bus.byteAt cpu.pc.toNat)).cycles := by
  rcases Machine.execute_cases bus running with ⟨g, first, -⟩ | ⟨-, ⟨undefined, step⟩ | ⟨op, defined, ran⟩⟩
  · rw [fetched] at first; cases first
  · rw [step, lookup_cycles_of_undefined undefined]
  · rcases ran with ⟨e, effect, -⟩ | ⟨eff, -, step⟩
    · -- a refused operation would have an access in a gap
      have fails := Operation.effect_failsFirstAt op (Machine.fetched bus cpu.pc) (Machine.movedPast cpu bus) bus
      rw [FailsFirstAt, effect, firstGapIn_eq_none (mapped op defined)] at fails
      cases fails
    · rw [step]

/-- A stack access passes the bus's checks, as a read and as a write. -/
theorem Bus.stack_access_ok (bus : Bus) (c : Cpu) (v : UInt8) :
    bus.readByte c.stackAddress = .ok (bus.byteAt c.stackAddress.toNat) ∧
      bus.writeByte c.stackAddress v = .ok (bus.poke c.stackAddress.toNat v) := by
  have mapped : ¬ InGap c.stackAddress.toNat := stack_not_inGap c.sp
  exact ⟨bus.readByte_of_not_inGap mapped, bus.writeByte_of_not_inGap v mapped⟩

/-- A vector in the cartridge window is a word read that never fails. -/
theorem Bus.readWord_vector (bus : Bus) {addr : UInt16} (window : 0x4020 ≤ addr.toNat)
    (fits : addr.toNat + 2 ≤ 0x10000) : bus.readWord addr = .ok (bus.vectorAt addr.toNat) := by
  have found : Region.ofAddress? addr.toNat = some .cartridge :=
    Region.ofAddress?_eq_some_iff.2 ⟨window, by simp only [Region.last]; omega⟩
  have passed : Bus.readCheck addr 2 = none :=
    Bus.readCheck_eq_none_iff.2 ⟨.cartridge, found, by simp only [Region.room, Region.last]; omega⟩
  rw [Bus.readWord, Bus.read_of_readCheck passed]
  rfl

/-! ## A step's failures -/

/-- A step fails in two ways only. Before a reset it refuses with `NotReset` and changes nothing.
Running, it is refused exactly at the first gap among its accesses in program order (the opcode,
the operand bytes modulo 2^16, the operation's pointer and data bytes), always with `Unmapped`;
a refused fetch changes nothing, and a refused operation leaves the bus as it was and the
processor as it was apart from the program counter, moved past the instruction. Stack slots,
page zero and the vectors never fail: the stack instructions and every page-zero form succeed
once fetched, a page-zero pointer is always read, and so is the reset vector. -/
theorem Machine.execute_failure (cpu : Cpu) (bus : Bus) :
    (cpu.phase = .reset → Machine.execute ⟨cpu, bus⟩ = (⟨cpu, bus⟩, .error .notReset)) ∧
    (cpu.phase = .running →
      refusal (Machine.execute ⟨cpu, bus⟩).2 =
        (firstGapIn (Machine.stepAccesses cpu bus)).map (fun g => .bus (.unmapped g)) ∧
      (∀ e, (Machine.execute ⟨cpu, bus⟩).2 = .error e →
        ((Machine.execute ⟨cpu, bus⟩).1 = ⟨cpu, bus⟩ ∧
          (firstGapIn (Machine.fetchAddresses bus cpu.pc)).isSome) ∨
        ((Machine.execute ⟨cpu, bus⟩).1 =
            ⟨{ cpu with pc := cpu.pc + (Mode.nominal (bus.byteAt cpu.pc.toNat)).size.toUInt16 }, bus⟩ ∧
          firstGapIn (Machine.fetchAddresses bus cpu.pc) = none)) ∧
      (firstGapIn (Machine.fetchAddresses bus cpu.pc) = none →
        (∃ op ∈ stackOperations, (lookup (bus.byteAt cpu.pc.toNat)).operation = some op) ∨
          Mode.nominal (bus.byteAt cpu.pc.toNat) = .zeroPage ∨
          Mode.nominal (bus.byteAt cpu.pc.toNat) = .zeroPageX →
        (Machine.execute ⟨cpu, bus⟩).2 = .ok (lookup (bus.byteAt cpu.pc.toNat)).cycles)) ∧
    (∀ base : UInt8, bus.zeroPagePointer base =
      .ok (wordOf (bus.byteAt base.toUInt16.toNat) (bus.byteAt (base + 1).toUInt16.toNat))) ∧
    (∀ (c : Cpu) (v : UInt8), bus.readByte c.stackAddress = .ok (bus.byteAt c.stackAddress.toNat) ∧
      bus.writeByte c.stackAddress v = .ok (bus.poke c.stackAddress.toNat v)) ∧
    bus.readWord breakVector = .ok (bus.vectorAt breakVector.toNat) ∧
    ∃ w, bus.readWord resetVector = .ok w ∧ Cpu.reset bus = Cpu.afterReset w := by
  refine ⟨Machine.execute_of_reset, fun running => ⟨Machine.execute_refusal_eq running,
    fun e refused => Machine.execute_error_state running refused, fun fetched safe => ?_⟩,
    bus.zeroPagePointer_eq, fun c v => bus.stack_access_ok c v,
    bus.readWord_vector (by decide) (by decide),
    ⟨_, bus.readWord_vector (by decide) (by decide), rfl⟩⟩
  apply Machine.execute_ok_of_mapped running fetched
  intro op defined
  rcases safe with ⟨op', stackOp, defined'⟩ | zp
  · rw [defined] at defined'
    cases defined'
    exact Operation.accesses_mapped_of_stack stackOp _ _ _
  · exact op.accesses_mapped_of_zeroPage _ zp

/-- Before a reset a step is refused; after one, a `BRK` fetched from cleared RAM succeeds. -/
theorem brk_after_reset_succeeds :
    Machine.execute ⟨Cpu.initial, Bus.empty⟩ = (⟨Cpu.initial, Bus.empty⟩, .error .notReset) ∧
    (Machine.execute ⟨Cpu.afterReset 0, Bus.empty⟩).2 =
      .ok (lookup (Bus.empty.byteAt (0 : UInt16).toNat)).cycles := by
  have fetched : firstGapIn (Machine.fetchAddresses Bus.empty (Cpu.afterReset 0).pc) = none := by
    decide
  have brk : ∃ op ∈ stackOperations, (lookup (Bus.empty.byteAt (0 : UInt16).toNat)).operation = some op :=
    ⟨.brk, by decide, by decide⟩
  exact ⟨(Machine.execute_failure Cpu.initial Bus.empty).1 rfl,
    ((Machine.execute_failure (Cpu.afterReset 0) Bus.empty).2.1 rfl).2.2 fetched (.inl brk)⟩

end NesMachine
