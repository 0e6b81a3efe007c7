import Mathlib.Data.Nat.Bitwise
import NesMachine.Proofs.StackRoundTrip
/-!
# What the data instructions compute

The loads, transfers, increments and decrements, `ORA` and `PLA` put a value in a register, the
compares and `BIT` set flags from one, and `ASL` shifts one left, in A or in memory. Their
results are stated here as the processor's documentation gives them, in plain arithmetic on the
bytes before the step, and every step of such an instruction that succeeds computes them:

* `Mode.effectiveAddress?`: the effective address of each memory mode, modulo 256 on page zero
  and modulo 2^16 elsewhere, a page-zero pointer taking its high byte from the next byte of
  page zero; `Machine.operandAddress?` is that of the instruction at the program counter;
* `Machine.operandValue`: the value `M` of the instruction at the program counter, A in the
  accumulator mode, the byte at its effective address or its operand byte when immediate;
  `LDA $BD` and `CMP $DD` add X to the byte at the unindexed address instead;
* `Operation.Computes`: what each data operation leaves in the registers and, for `ASL`, in
  memory, with `Cpu.Holds` the rule of every load (zero exactly when the value is 0, negative
  exactly when it is at least `$80`);
* `Machine.execute_computes`: a successful step of a data instruction computes it.

Flags are read with `Status.get`, in the core's own bit layout.
-/

namespace NesMachine

/-! ## Flags written and read back -/

/-- A flag reads back as it was written. -/
theorem Status.get_set_self (s : Status) (f : Flag) (v : Bool) : (s.set f v).get f = v := by
  have nonzero : f.mask ≠ 0 := by cases f <;> decide
  cases v
  · have cleared : s.bits &&& ~~~f.mask &&& f.mask = 0 := by
      apply UInt8.toBitVec_inj.1
      ext i
      simp only [UInt8.toBitVec_and, UInt8.toBitVec_not, BitVec.getElem_and, BitVec.getElem_not,
        UInt8.toBitVec_zero, BitVec.getElem_zero]
      cases f.mask.toBitVec[i] <;> simp
    simp [Status.set, Status.get, cleared]
  · have kept : (s.bits ||| f.mask) &&& f.mask = f.mask := by
      apply UInt8.toBitVec_inj.1
      ext i
      simp only [UInt8.toBitVec_and, UInt8.toBitVec_or, BitVec.getElem_and, BitVec.getElem_or]
      cases f.mask.toBitVec[i] <;> simp
    simp [Status.set, Status.get, kept, nonzero]

/-- Bit 7 of a byte is set exactly when the byte is at least `$80`. -/
theorem UInt8.and_0x80_bne_zero (v : UInt8) : (v &&& 0x80 != 0) = decide (0x80 ≤ v.toNat) := by
  have bit : (v &&& 0x80).toNat = (v.toNat.testBit 7).toNat * 2 ^ 7 := by
    rw [UInt8.toNat_and]
    exact Nat.and_two_pow v.toNat 7
  rw [Nat.testBit_eq_decide_div_mod_eq, show (2 : Nat) ^ 7 = 128 from rfl] at bit
  have lt := v.toNat_lt
  apply Bool.eq_iff_iff.2
  simp only [bne_iff_ne, ne_eq, decide_eq_true_eq]
  rw [← UInt8.toNat_inj, bit, UInt8.toNat_zero]
  by_cases high : v.toNat / 128 % 2 = 1
  · simp only [high, decide_true, Bool.toNat_true]; omega
  · simp only [high, decide_false, Bool.toNat_false, Nat.zero_mul, not_true_eq_false, false_iff,
      Nat.not_le]
    omega

@[simp] theorem Status.setZN_zero (s : Status) (v : UInt8) : (s.setZN v).get .zero = (v == 0) := by
  rw [Status.setZN, Status.get_set_of_ne _ _ (by decide), Status.get_set_self]

@[simp] theorem Status.setZN_negative (s : Status) (v : UInt8) :
    (s.setZN v).get .negative = decide (0x80 ≤ v.toNat) := by
  rw [Status.setZN, Status.get_set_self, UInt8.and_0x80_bne_zero]

/-! ## Loading a register -/

/-- `c` holds `v` in `r`, and its zero and negative flags describe `v`: zero exactly when `v` is
0, negative exactly when `v` is at least `$80`. -/
structure Cpu.Holds (c : Cpu) (r : Register) (v : Nat) : Prop where
  reg : (c.reg r).toNat = v
  zero : c.flag .zero = true ↔ v = 0
  negative : c.flag .negative = true ↔ 0x80 ≤ v

theorem Cpu.holds_loadReg (c : Cpu) (r : Register) (v : UInt8) : (c.loadReg r v).Holds r v.toNat := by
  refine ⟨by cases r <;> rfl, ?_, ?_⟩
  · simp [Cpu.flag, Cpu.loadReg, ← UInt8.toNat_inj]
  · simp [Cpu.flag, Cpu.loadReg]

/-! ## The documented results -/

/-- The effective address of an operand in a memory mode, from the first operand byte `b0`, the
operand word `w`, the index registers and the bytes `mem` before the step: page-zero forms wrap
modulo 256 and absolute forms modulo 2^16, and a page-zero pointer takes its high byte from the
next byte of page zero. The other modes address no data byte. -/
def Mode.effectiveAddress? (mode : Mode) (b0 w x y : Nat) (mem : Nat → Nat) : Option Nat :=
  match mode with
  | .zeroPage => some b0
  | .zeroPageX => some ((b0 + x) % 256)
  | .zeroPageY => some ((b0 + y) % 256)
  | .absolute => some w
  | .absoluteX => some ((w + x) % 65536)
  | .absoluteY => some ((w + y) % 65536)
  | .indirectX => some (mem ((b0 + x) % 256) + 256 * mem ((b0 + x + 1) % 256))
  | .indirectY => some ((mem b0 + 256 * mem ((b0 + 1) % 256) + y) % 65536)
  | .implied | .accumulator | .immediate | .relative | .indirect => none

/-- The effective address of the instruction at the program counter, from its operand byte `b0`,
its operand word `w` and the bytes `mem` before the step. -/
def Machine.operandAddress? (cpu : Cpu) (bus : Bus) : Option Nat :=
  let mem (a : Nat) : Nat := (bus.byteAt a).toNat
  let b0 := mem ((cpu.pc.toNat + 1) % 65536)
  let w := b0 + 256 * mem ((cpu.pc.toNat + 2) % 65536)
  (lookup (bus.byteAt cpu.pc.toNat)).mode.effectiveAddress? b0 w cpu.x.toNat cpu.y.toNat mem

/-- The value `M` the instruction at the program counter works on, from the bytes before the
step: A in the accumulator mode, the byte at its effective address, or its operand byte when it
has none (immediate). `LDA $BD` and `CMP $DD` add X, modulo 256, to the byte at the unindexed
address instead. -/
def Machine.operandValue (cpu : Cpu) (bus : Bus) : Nat :=
  let mem (a : Nat) : Nat := (bus.byteAt a).toNat
  let opcode := bus.byteAt cpu.pc.toNat
  let b0 := mem ((cpu.pc.toNat + 1) % 65536)
  let w := b0 + 256 * mem ((cpu.pc.toNat + 2) % 65536)
  if opcode = 0xBD ∨ opcode = 0xDD then (mem w + cpu.x.toNat) % 256
  else if (lookup opcode).mode = .accumulator then cpu.a.toNat
  else (Machine.operandAddress? cpu bus).elim b0 mem

/-- `LDA $0010` in its `$BD` form with X = 5 works on `$FE + 5` modulo 256, not on the byte at
`$0015`. -/
example : Machine.operandValue { Cpu.afterReset 0 with x := 5 }
    (((Bus.empty.poke 0 0xBD).poke 1 0x10).poke 0x10 0xFE) = 3 := by
  decide

/-- What a data operation leaves in the processor `c'` and in the bytes `mem'` after the step,
from the registers of `c` before it, the value `m` it works on, the byte `pulled` a pull reads
and its effective address `ea`, if it has one. Loads put `m` in their register, transfers the
source register in the destination (`TXS` too), the increments and decrements the register plus
or minus one modulo 256, `ORA` `A | m` and `PLA` the pulled byte, each by the rule of
`Cpu.Holds`. A compare sets carry exactly when the register is at least `m`, zero exactly when it
equals `m`, and negative from bit 7 of their difference modulo 256; `BIT` sets zero exactly when
`A & m` is 0, negative from bit 7 of `m` and overflow from bit 6. `ASL` sets carry from bit 7 of
`m` and puts `r = 2m mod 256` in A when it has no effective address and at `mem'[ea]` otherwise,
with zero and negative from `r`. No other operation is a data operation. -/
def Operation.Computes (op : Operation) (c : Cpu) (m pulled : Nat) (ea : Option Nat) (c' : Cpu)
    (mem' : Nat → Nat) : Prop :=
  match op with
  | .load r _ => c'.Holds r m
  | .transfer src dst => c'.Holds dst (c.reg src).toNat
  | .increment r => c'.Holds r (((c.reg r).toNat + 1) % 256)
  | .decrement r => c'.Holds r (((c.reg r).toNat + 255) % 256)
  | .ora => c'.Holds .a (c.a.toNat ||| m)
  | .pull .accumulator => c'.Holds .a pulled
  | .compare r _ =>
    (c'.flag .carry = true ↔ m ≤ (c.reg r).toNat) ∧ (c'.flag .zero = true ↔ (c.reg r).toNat = m) ∧
      (c'.flag .negative = true ↔ 0x80 ≤ ((c.reg r).toNat + 256 - m) % 256)
  | .bit =>
    (c'.flag .zero = true ↔ c.a.toNat &&& m = 0) ∧ (c'.flag .negative = true ↔ 0x80 ≤ m) ∧
      (c'.flag .overflow = true ↔ m.testBit 6)
  | .asl =>
    (c'.flag .carry = true ↔ 0x80 ≤ m) ∧ (c'.flag .zero = true ↔ 2 * m % 256 = 0) ∧
      (c'.flag .negative = true ↔ 0x80 ≤ 2 * m % 256) ∧
      ea.elim (c'.a.toNat = 2 * m % 256) (fun a => mem' a = 2 * m % 256)
  | .store _ | .push _ | .pull .status | .setFlag .. | .branch .. | .brk | .jsr | .rti | .rts
  | .jmp | .nop => False

/-- The data operations, those `Operation.Computes` describes. -/
def Operation.isData : Operation → Bool
  | .load .. | .transfer .. | .increment _ | .decrement _ | .ora | .pull .accumulator
  | .compare .. | .bit | .asl => true
  | _ => false

/-! ## Where the table reads `M` -/

/-- Where an operation that works on a value `M` fetches it. -/
def Operation.fetch? : Operation → Option Fetch
  | .load _ f | .compare _ f => some f
  | .ora | .bit => some .operand
  | _ => none

/-- The modes a data instruction takes `M` in. -/
def dataModes : List Mode :=
  [.immediate, .zeroPage, .zeroPageX, .absolute, .absoluteX, .absoluteY, .indirectX, .indirectY]

/-- A fact checked at each of the 256 byte values holds of every byte. -/
theorem UInt8.of_table {P : UInt8 → Prop} (table : ∀ n < 256, P (UInt8.ofNat n)) (b : UInt8) : P b := by
  have checked := table b.toNat b.toNat_lt
  rwa [UInt8.ofNat_toNat] at checked

/-- Every opcode is looked up in the mode its bit pattern names. -/
theorem lookup_mode (o : UInt8) : (lookup o).mode = Mode.nominal o := by
  simp only [Opcode.mode, lookup_byte]

/-- In the table `LDA $BD` and `CMP $DD` alone fetch the base-plus-X value, and from an
absolute,X operand. -/
theorem lookup_baseIndexed (o : UInt8)
    (reads : (lookup o).operation.bind Operation.fetch? = some .baseIndexed) :
    (o = 0xBD ∨ o = 0xDD) ∧ Mode.nominal o = .absoluteX := by
  revert reads
  apply UInt8.of_table _ o
  decide +kernel

/-- Every other opcode that fetches `M` reads it in a data mode. -/
theorem lookup_operand (o : UInt8) (reads : (lookup o).operation.bind Operation.fetch? = some .operand) :
    ¬ (o = 0xBD ∨ o = 0xDD) ∧ Mode.nominal o ∈ dataModes := by
  revert reads
  apply UInt8.of_table _ o
  decide +kernel

/-! ## The value a data instruction fetches -/

/-- An operand in a data mode is the operand byte when immediate, and otherwise the byte at the
documented effective address; `w` is the operand word, which only the absolute modes read. -/
theorem Instruction.operand_at (ins : Instruction) (cpu : Cpu) (bus : Bus) (w : Nat)
    (mode : ins.mode ∈ dataModes) (word : ins.mode.size = 3 → ins.word.toNat = w) :
    (ins.mode = .immediate ∧ ins.operand cpu bus = .immediate ins.lo ∧
        ins.mode.effectiveAddress? ins.lo.toNat w cpu.x.toNat cpu.y.toNat (fun a => (bus.byteAt a).toNat) =
          none) ∨
      ∃ a : UInt16, ins.operand cpu bus = .address a ∧
        ins.mode.effectiveAddress? ins.lo.toNat w cpu.x.toNat cpu.y.toNat (fun a => (bus.byteAt a).toNat) =
          some a.toNat := by
  obtain ⟨opcode, m, lo, hi⟩ := ins
  cases m
  case immediate => exact .inl ⟨rfl, rfl, rfl⟩
  -- each memory mode computes to its documented address; the absolute ones through the operand word
  case absolute | absoluteX | absoluteY =>
    obtain rfl := word rfl
    exact .inr ⟨_, rfl, by simp [Mode.effectiveAddress?, UInt16.toNat_add]⟩
  case zeroPage | zeroPageX | indirectX | indirectY =>
    exact .inr ⟨_, rfl, by simp [Mode.effectiveAddress?, UInt16.toNat_add, wordOf_toNat]⟩
  all_goals simp [dataModes] at mode

/-- Every data mode takes an operand byte. -/
theorem dataModes_size : ∀ m ∈ dataModes, 2 ≤ m.size := by decide

/-- The instruction at the program counter, in a data mode, designates its operand byte when
immediate, and otherwise the byte at `Machine.operandAddress?`. -/
theorem Machine.fetched_operand_at {cpu : Cpu} {bus : Bus}
    (dataMode : Mode.nominal (bus.byteAt cpu.pc.toNat) ∈ dataModes) :
    (Mode.nominal (bus.byteAt cpu.pc.toNat) = .immediate ∧
        (Machine.fetched bus cpu.pc).operand (Machine.movedPast cpu bus) bus =
          .immediate (bus.byteAt ((cpu.pc.toNat + 1) % 65536)) ∧
        Machine.operandAddress? cpu bus = none) ∨
      ∃ a : UInt16, (Machine.fetched bus cpu.pc).operand (Machine.movedPast cpu bus) bus = .address a ∧
        Machine.operandAddress? cpu bus = some a.toNat := by
  have next : ∀ k : UInt16, (cpu.pc + k).toNat = (cpu.pc.toNat + k.toNat) % 65536 := fun k =>
    UInt16.toNat_add _ _
  have long := dataModes_size _ dataMode
  -- the fetched instruction's operand byte and word are the bytes after the opcode, and moving
  -- past it keeps the index registers
  have lo : (Machine.fetched bus cpu.pc).lo = bus.byteAt ((cpu.pc.toNat + 1) % 65536) := by
    simp [Machine.fetched, long, next]
  have address : (Machine.fetched bus cpu.pc).mode.effectiveAddress? (Machine.fetched bus cpu.pc).lo.toNat
      ((bus.byteAt ((cpu.pc.toNat + 1) % 65536)).toNat + 256 * (bus.byteAt ((cpu.pc.toNat + 2) % 65536)).toNat)
      (Machine.movedPast cpu bus).x.toNat (Machine.movedPast cpu bus).y.toNat
      (fun a => (bus.byteAt a).toNat) = Machine.operandAddress? cpu bus := by
    rw [lo]
    simp [Machine.operandAddress?, Machine.fetched, Machine.movedPast, lookup_mode]
  have word : (Machine.fetched bus cpu.pc).mode.size = 3 → (Machine.fetched bus cpu.pc).word.toNat =
      (bus.byteAt ((cpu.pc.toNat + 1) % 65536)).toNat + 256 * (bus.byteAt ((cpu.pc.toNat + 2) % 65536)).toNat := by
    intro three
    change (Mode.nominal (bus.byteAt cpu.pc.toNat)).size = 3 at three
    simp [Machine.fetched, Instruction.word, wordOf_toNat, three, next]
  rw [← address]
  rcases Instruction.operand_at _ (Machine.movedPast cpu bus) bus _ dataMode word with
    ⟨immediate, operand, none⟩ | ⟨a, operand, some⟩
  · exact .inl ⟨immediate, by rw [operand, lo], none⟩
  · exact .inr ⟨a, operand, some⟩

/-- Outside the accumulator mode and the base-plus-X forms, `M` is the byte at the effective
address, or the operand byte when there is none. -/
theorem Machine.operandValue_eq {cpu : Cpu} {bus : Bus}
    (plain : ¬ (bus.byteAt cpu.pc.toNat = 0xBD ∨ bus.byteAt cpu.pc.toNat = 0xDD))
    (memory : Mode.nominal (bus.byteAt cpu.pc.toNat) ≠ .accumulator) :
    Machine.operandValue cpu bus = (Machine.operandAddress? cpu bus).elim
      (bus.byteAt ((cpu.pc.toNat + 1) % 65536)).toNat (fun a => (bus.byteAt a).toNat) := by
  unfold Machine.operandValue
  rw [if_neg plain, lookup_mode, if_neg memory]

/-- The value a data instruction fetches, as the bus holds it, is the documented `M`. -/
theorem Machine.fetchValue_fetched {cpu : Cpu} {bus : Bus} {op : Operation} {f : Fetch}
    (defined : (lookup (bus.byteAt cpu.pc.toNat)).operation = some op) (reads : op.fetch? = some f) :
    (f.value (Machine.fetched bus cpu.pc) (Machine.movedPast cpu bus) bus).toNat =
      Machine.operandValue cpu bus := by
  have next : ∀ k : UInt16, (cpu.pc + k).toNat = (cpu.pc.toNat + k.toNat) % 65536 := fun k =>
    UInt16.toNat_add _ _
  cases f with
  | baseIndexed =>
    obtain ⟨opcode, absX⟩ := lookup_baseIndexed _ (by rw [defined]; exact reads)
    simp only [Fetch.value, Machine.operandValue, if_pos opcode, Machine.fetched, absX, Mode.size]
    simp [Instruction.word, wordOf_toNat, next, UInt8.toNat_add, Machine.movedPast]
  | operand =>
    -- the operand is the operand byte or the byte at the effective address
    obtain ⟨opcode, dataMode⟩ := lookup_operand _ (by rw [defined]; exact reads)
    have memory : Mode.nominal (bus.byteAt cpu.pc.toNat) ≠ .accumulator := by
      intro accumulator
      rw [accumulator] at dataMode
      simp [dataModes] at dataMode
    rw [Machine.operandValue_eq opcode memory]
    rcases Machine.fetched_operand_at dataMode with ⟨-, operand, none⟩ | ⟨a, operand, some⟩
    · simp [Fetch.value, operand, none, Operand.value]
    · simp [Fetch.value, operand, some, Operand.value]

/-! ## Compares -/

/-- A compare sets carry exactly when the register is at least `m`, zero exactly when they are
equal, and negative from bit 7 of their difference modulo 256. -/
theorem Cpu.compareWith_flags (c : Cpu) (reg m : UInt8) :
    ((c.compareWith reg m).flag .carry = true ↔ m.toNat ≤ reg.toNat) ∧
    ((c.compareWith reg m).flag .zero = true ↔ reg.toNat = m.toNat) ∧
    ((c.compareWith reg m).flag .negative = true ↔ 0x80 ≤ (reg.toNat + 256 - m.toNat) % 256) := by
  have regByte : reg.toNat < 256 := reg.toNat_lt
  have mByte : m.toNat < 256 := m.toNat_lt
  have difference : (reg - m).toNat = (reg.toNat + 256 - m.toNat) % 256 := by
    rw [UInt8.toNat_sub, show (2 : Nat) ^ 8 = 256 from rfl]
    omega
  simp only [Cpu.flag, Cpu.compareWith, Status.setZN_zero, Status.setZN_negative, difference]
  refine ⟨?_, ?_, by simp⟩
  · rw [Status.setZN, Status.get_set_of_ne _ _ (by decide), Status.get_set_of_ne _ _ (by decide),
      Status.get_set_self]
    simp [UInt8.le_iff_toNat_le]
  · simp only [beq_iff_eq, ← UInt8.toNat_inj, UInt8.toNat_zero, difference]
    omega

/-! ## Bit tests and shifts -/

/-- Bit 6 of a byte, read through its mask. -/
theorem UInt8.and_0x40_bne_zero (v : UInt8) : (v &&& 0x40 != 0) = v.toNat.testBit 6 := by
  apply UInt8.of_table _ v
  decide +kernel

/-- `BIT` sets zero exactly when `A & m` is 0, negative from bit 7 of `m` and overflow from bit 6. -/
theorem Status.bit_flags (s : Status) (a m : UInt8) :
    let s' := ((s.set .zero (a &&& m == 0)).set .negative (m &&& 0x80 != 0)).set .overflow (m &&& 0x40 != 0)
    (s'.get .zero = true ↔ a.toNat &&& m.toNat = 0) ∧ (s'.get .negative = true ↔ 0x80 ≤ m.toNat) ∧
      (s'.get .overflow = true ↔ m.toNat.testBit 6) := by
  refine ⟨?_, ?_, ?_⟩
  · rw [Status.get_set_of_ne _ _ (by decide), Status.get_set_of_ne _ _ (by decide), Status.get_set_self]
    simp only [beq_iff_eq, ← UInt8.toNat_inj, UInt8.toNat_and, UInt8.toNat_zero]
  · rw [Status.get_set_of_ne _ _ (by decide), Status.get_set_self, UInt8.and_0x80_bne_zero]
    simp
  · rw [Status.get_set_self, UInt8.and_0x40_bne_zero]

/-- Shifting a byte left by one doubles it modulo 256. -/
theorem UInt8.toNat_shiftLeft_one (v : UInt8) : (v <<< 1).toNat = 2 * v.toNat % 256 := by
  rw [UInt8.toNat_shiftLeft, Nat.shiftLeft_eq]
  simp only [UInt8.toNat_one, Nat.one_mod, Nat.pow_one, Nat.mul_comm]

/-- `ASL` sets carry from bit 7 of `v`, and zero and negative from `v <<< 1`, which is `2v` modulo
256. -/
theorem Status.asl_flags (s : Status) (v : UInt8) :
    let s' := (s.set .carry (v &&& 0x80 != 0)).setZN (v <<< 1)
    (s'.get .carry = true ↔ 0x80 ≤ v.toNat) ∧ (s'.get .zero = true ↔ 2 * v.toNat % 256 = 0) ∧
      (s'.get .negative = true ↔ 0x80 ≤ 2 * v.toNat % 256) := by
  refine ⟨?_, ?_, ?_⟩
  · rw [Status.setZN, Status.get_set_of_ne _ _ (by decide), Status.get_set_of_ne _ _ (by decide),
      Status.get_set_self, UInt8.and_0x80_bne_zero]
    simp
  · rw [Status.setZN_zero]
    simp only [beq_iff_eq, ← UInt8.toNat_inj, UInt8.toNat_shiftLeft_one, UInt8.toNat_zero]
  · rw [Status.setZN_negative, UInt8.toNat_shiftLeft_one]
    simp

/-- In the table `ASL` works on the accumulator, or on a byte at a page-zero or absolute address,
indexed by X or not. -/
theorem lookup_asl (o : UInt8) (shifts : (lookup o).operation = some .asl) :
    ¬ (o = 0xBD ∨ o = 0xDD) ∧ Mode.nominal o ∈ [.accumulator, .zeroPage, .absolute, .absoluteX] := by
  revert shifts
  apply UInt8.of_table _ o
  decide +kernel

/-- `ASL` at the program counter works on `M`, which is A in the accumulator mode, where it has
no effective address, and otherwise the byte at its effective address. -/
theorem Machine.asl_operand {cpu : Cpu} {bus : Bus}
    (defined : (lookup (bus.byteAt cpu.pc.toNat)).operation = some .asl) :
    (((Machine.fetched bus cpu.pc).operand (Machine.movedPast cpu bus) bus).value
        (Machine.movedPast cpu bus) bus).toNat = Machine.operandValue cpu bus ∧
      (((Machine.fetched bus cpu.pc).operand (Machine.movedPast cpu bus) bus = .accumulator ∧
          Machine.operandAddress? cpu bus = none) ∨
        ∃ a : UInt16, (Machine.fetched bus cpu.pc).operand (Machine.movedPast cpu bus) bus = .address a ∧
          Machine.operandAddress? cpu bus = some a.toNat) := by
  obtain ⟨plain, modes⟩ := lookup_asl _ defined
  by_cases accumulator : Mode.nominal (bus.byteAt cpu.pc.toNat) = .accumulator
  · have operand : (Machine.fetched bus cpu.pc).operand (Machine.movedPast cpu bus) bus = .accumulator := by
      simp [Machine.fetched, Instruction.operand, accumulator]
    refine ⟨?_, .inl ⟨operand, ?_⟩⟩
    · unfold Machine.operandValue
      rw [if_neg plain, lookup_mode, if_pos accumulator, operand]
      rfl
    · simp [Machine.operandAddress?, lookup_mode, accumulator, Mode.effectiveAddress?]
  · -- a memory form: its mode is a data mode, and not the immediate one
    have dataMode : Mode.nominal (bus.byteAt cpu.pc.toNat) ∈ dataModes := by
      simp only [List.mem_cons, List.not_mem_nil, or_false] at modes
      rcases modes with h | h | h | h <;> simp [h, dataModes] at accumulator ⊢
    rcases Machine.fetched_operand_at dataMode with ⟨immediate, -, -⟩ | ⟨a, operand, some⟩
    · simp [immediate] at modes
    · refine ⟨?_, .inr ⟨a, operand, some⟩⟩
      rw [Machine.operandValue_eq plain accumulator, some, operand]
      rfl

/-- A one-byte store that the bus accepts is at an address that holds a byte. -/
theorem storeChecked_mapped {a : UInt16} {v : UInt8} {s : UInt16 × UInt8} (h : storeChecked a v = .ok s) :
    Cell.ofAddress? a.toNat ≠ none := by
  obtain ⟨clear, -⟩ := (storeChecked_runs a v).of_ok h
  have notGap : ¬ InGap a.toNat := by simpa [firstGapIn] using clear
  rw [ne_eq, Cell.ofAddress?_eq_none_iff, Region.ofAddress?_eq_none_iff]
  exact fun unmapped => unmapped.elim notGap (by have := a.toNat_lt; omega)

/-- A byte stored at an address that holds one reads back. -/
theorem Bus.byteAt_poke_self (b : Bus) {addr : Nat} (v : UInt8) (mapped : Cell.ofAddress? addr ≠ none) :
    (b.poke addr v).byteAt addr = v := by
  obtain ⟨c, found⟩ := Option.ne_none_iff_exists'.1 mapped
  simp [Bus.byteAt, Bus.get_poke, found]

/-- A store into the accumulator puts the byte in A. -/
theorem storeOperand_accumulator {cpu : Cpu} {v : UInt8} {eff : Effect}
    (stored : storeOperand cpu .accumulator v = .ok eff) : eff.cpu.a = v := by
  cases stored
  rfl

/-- A store at an address that the bus accepts reads back there once the step's stores are made. -/
theorem storeOperand_reads_back (bus : Bus) {cpu : Cpu} {a : UInt16} {v : UInt8} {eff : Effect}
    (stored : storeOperand cpu (.address a) v = .ok eff) : (bus.storeAll eff.stores).byteAt a.toNat = v := by
  obtain ⟨_, checked, rfl⟩ := Except.map_eq_ok stored
  obtain ⟨-, rfl⟩ := (storeChecked_runs _ _).of_ok checked
  exact bus.byteAt_poke_self v (storeChecked_mapped checked)

/-! ## A data step computes its documented result -/

/-- A data operation that succeeds on the instruction at the program counter computes its
documented result from the registers and bytes before the step. -/
theorem Operation.effect_computes {cpu : Cpu} {bus : Bus} {op : Operation} {eff : Effect}
    (defined : (lookup (bus.byteAt cpu.pc.toNat)).operation = some op) (data : op.isData = true)
    (effect : op.effect (Machine.fetched bus cpu.pc) (Machine.movedPast cpu bus) bus = .ok eff) :
    op.Computes cpu (Machine.operandValue cpu bus) (bus.byteAt (0x100 + (cpu.sp.toNat + 1) % 256)).toNat
      (Machine.operandAddress? cpu bus) eff.cpu (fun a => ((bus.storeAll eff.stores).byteAt a).toNat) := by
  -- the value a fetch returns is `M`
  have value : ∀ {f : Fetch} {v : UInt8}, op.fetch? = some f →
      fetchValue (Machine.movedPast cpu bus) bus (Machine.fetched bus cpu.pc) f = .ok v →
      v.toNat = Machine.operandValue cpu bus := fun reads fetched => by
    obtain ⟨-, rfl⟩ := (fetchValue_runs _ _ _ _).of_ok fetched
    exact Machine.fetchValue_fetched defined reads
  -- moving past the instruction changes no register
  have regs : ∀ r, (Machine.movedPast cpu bus).reg r = cpu.reg r := fun r => by cases r <;> rfl
  cases op with
  | load r f =>
    obtain ⟨v, fetched, done⟩ := Except.bind_eq_ok effect
    cases done
    show Cpu.Holds _ r _
    rw [← value rfl fetched]
    exact Cpu.holds_loadReg _ r v
  | transfer src dst =>
    cases effect
    show Cpu.Holds _ dst _
    rw [← regs src]
    exact Cpu.holds_loadReg _ dst _
  | increment r =>
    cases effect
    have sum : ((Machine.movedPast cpu bus).reg r + 1).toNat = ((cpu.reg r).toNat + 1) % 256 := by
      rw [UInt8.toNat_add, regs]
      rfl
    show Cpu.Holds _ r _
    rw [← sum]
    exact Cpu.holds_loadReg _ r _
  | decrement r =>
    cases effect
    have difference : ((Machine.movedPast cpu bus).reg r - 1).toNat = ((cpu.reg r).toNat + 255) % 256 := by
      rw [UInt8.toNat_sub, regs, UInt8.toNat_one]
      omega
    show Cpu.Holds _ r _
    rw [← difference]
    exact Cpu.holds_loadReg _ r _
  | ora =>
    obtain ⟨v, fetched, done⟩ := Except.bind_eq_ok effect
    cases done
    show Cpu.Holds _ .a _
    rw [← value rfl fetched, ← UInt8.toNat_or]
    exact Cpu.holds_loadReg _ .a _
  | compare r f =>
    obtain ⟨v, fetched, done⟩ := Except.bind_eq_ok effect
    cases done
    show (_ ↔ _) ∧ (_ ↔ _) ∧ (_ ↔ _)
    rw [← value rfl fetched, ← regs r]
    exact Cpu.compareWith_flags _ _ _
  | bit =>
    obtain ⟨v, fetched, done⟩ := Except.bind_eq_ok effect
    cases done
    show (_ ↔ _) ∧ (_ ↔ _) ∧ (_ ↔ _)
    rw [← value rfl fetched]
    exact Status.bit_flags _ _ _
  | asl =>
    obtain ⟨o, resolved, effect⟩ := Except.bind_eq_ok effect
    obtain ⟨v, read, effect⟩ := Except.bind_eq_ok effect
    obtain ⟨stored, store, done⟩ := Except.bind_eq_ok effect
    cases done
    obtain ⟨-, resolvedAt⟩ := (resolve_runs _ _ _).of_ok resolved
    obtain ⟨-, readAt⟩ := (readOperand_runs _ _ _).of_ok read
    obtain ⟨value, placed⟩ := Machine.asl_operand defined
    rw [← resolvedAt, ← readAt] at value
    rw [← resolvedAt] at placed
    -- the flags come from the byte read, on top of whatever the store did to the registers
    show (_ ↔ _) ∧ (_ ↔ _) ∧ (_ ↔ _) ∧ _
    rw [← value]
    obtain ⟨carry, zero, negative⟩ := Status.asl_flags stored.cpu.status v
    refine ⟨carry, zero, negative, ?_⟩
    -- the result goes to A when there is no effective address, and back to memory otherwise
    rcases placed with ⟨rfl, none⟩ | ⟨a, rfl, some⟩
    · rw [none]
      show stored.cpu.a.toNat = _
      rw [storeOperand_accumulator store, UInt8.toNat_shiftLeft_one]
    · rw [some]
      show ((bus.storeAll stored.stores).byteAt a.toNat).toNat = _
      rw [storeOperand_reads_back bus store, UInt8.toNat_shiftLeft_one]
  | pull item =>
    cases item with
    | accumulator =>
      rw [Operation.effect_pla] at effect
      cases effect
      have slot :
          (stackAt ((Machine.movedPast cpu bus).sp + 1)).toNat = 0x100 + (cpu.sp.toNat + 1) % 256 := by
        rw [stackAt_toNat, UInt8.toNat_add]
        rfl
      show Cpu.Holds _ .a _
      rw [← slot]
      exact Cpu.holds_loadReg _ .a _
    | status => cases data
  | store _ | push _ | setFlag _ _ | branch _ _ | brk | jsr | rti | rts | jmp | nop => cases data

/-- A running step of a data instruction that succeeds computes the documented result, with `M`
and the effective address read from the bytes before the step, a pull reading `$0100 | (SP + 1)`,
and a shift's result read from the bytes after it. -/
theorem Machine.execute_computes {cpu : Cpu} {bus : Bus} (running : cpu.phase = .running) {op : Operation}
    (defined : (lookup (bus.byteAt cpu.pc.toNat)).operation = some op) (data : op.isData = true) {n : Nat}
    (ok : (Machine.execute ⟨cpu, bus⟩).2 = .ok n) :
    op.Computes cpu (Machine.operandValue cpu bus) (bus.byteAt (0x100 + (cpu.sp.toNat + 1) % 256)).toNat
      (Machine.operandAddress? cpu bus) (Machine.execute ⟨cpu, bus⟩).1.cpu
      (fun a => ((Machine.execute ⟨cpu, bus⟩).1.bus.byteAt a).toNat) := by
  obtain ⟨eff, effect, step⟩ := Machine.execute_of_ok running defined ok
  rw [step]
  exact Operation.effect_computes defined data effect

/-- `LDA #$80` after a reset to `$0000` loads `$80` with zero clear and negative set. -/
theorem lda_immediate_after_reset_computes :
    (Cpu.afterReset 0).phase = .running ∧
    (lookup (((Bus.empty.poke 0 0xA9).poke 1 0x80).byteAt (Cpu.afterReset 0).pc.toNat)).operation =
      some (.load .a .operand) ∧
    (Machine.execute ⟨Cpu.afterReset 0, (Bus.empty.poke 0 0xA9).poke 1 0x80⟩).2 = .ok 2 ∧
    (Operation.load .a .operand).Computes (Cpu.afterReset 0)
      (Machine.operandValue (Cpu.afterReset 0) ((Bus.empty.poke 0 0xA9).poke 1 0x80))
      (((Bus.empty.poke 0 0xA9).poke 1 0x80).byteAt (0x100 + ((Cpu.afterReset 0).sp.toNat + 1) % 256)).toNat
      (Machine.operandAddress? (Cpu.afterReset 0) ((Bus.empty.poke 0 0xA9).poke 1 0x80))
      (Machine.execute ⟨Cpu.afterReset 0, (Bus.empty.poke 0 0xA9).poke 1 0x80⟩).1.cpu
      (fun a => ((Machine.execute ⟨Cpu.afterReset 0, (Bus.empty.poke 0 0xA9).poke 1 0x80⟩).1.bus.byteAt a).toNat) := by
  have defined :
      (lookup (((Bus.empty.poke 0 0xA9).poke 1 0x80).byteAt (Cpu.afterReset 0).pc.toNat)).operation =
        some (.load .a .operand) := by
    decide
  have ran : (Machine.execute ⟨Cpu.afterReset 0, (Bus.empty.poke 0 0xA9).poke 1 0x80⟩).2 = .ok 2 := by decide
  exact ⟨rfl, defined, ran, Machine.execute_computes rfl defined rfl ran⟩

end NesMachine
