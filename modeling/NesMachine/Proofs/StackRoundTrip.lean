import NesMachine.Proofs.Footprint
/-!
# Calls, interrupts and pushes come back

The stack lives on page one, at `$0100 | SP`: a push stores there and moves `SP` down, a pull
moves `SP` up and reads there, both modulo 256, so a stack that runs off `$0100` continues at
`$01FF`. Every stack instruction has an inverse that undoes it, whatever ran in between, as long
as the stack pointer is back where the first left it and the bytes it pushed are still there.

`Machine.Pushed m k vs` says that `vs` sits on the stack as pushed from slot `k`. Each push
instruction leaves its bytes so (`Machine.jsr_pushes_return`, `Machine.brk_pushes_return`,
`Machine.pha_pushes`, `Machine.php_pushes`), and from any state that still holds them the matching
pull undoes it (`Machine.rts_after_jsr`, `Machine.rti_after_brk`, `Machine.pla_after_pha`,
`Machine.plp_after_php`): `RTS` resumes at `p + 3` after a `JSR` at `p`, `RTI` at `p + 1` after a
`BRK` at `p` with all eight status bits as they were before it, and `PLA` and `PLP` bring back the
accumulator and the status byte. `Machine.stack_round_trips` puts the four pairs together.

Each rests on the outcome of one step, read off `Machine.execute_cases` once the opcode is
known: `Machine.execute_of_ok` for the instruction that pushes, `Machine.execute_of_one_byte`
for the one that pulls.
-/

namespace NesMachine

/-! ## Page one -/

theorem stackAt_toNat (x : UInt8) : (stackAt x).toNat = 0x100 + x.toNat := by
  have low : x.toUInt16.toNat < 2 ^ 8 := by simpa using x.toNat_lt
  rw [stackAt, UInt16.toNat_or, Nat.or_comm, show (0x0100 : UInt16).toNat = 2 ^ 8 from rfl,
    Nat.or_two_pow_eq_add_of_lt low]
  simp only [UInt8.toNat_toUInt16]
  omega

/-- Each slot of page one is its own byte of RAM. -/
theorem Cell.ofAddress?_stackAt (x : UInt8) :
    Cell.ofAddress? (stackAt x).toNat = some (.ram ⟨0x100 + x.toNat, by have := x.toNat_lt; omega⟩) := by
  have := x.toNat_lt
  rw [stackAt_toNat, Cell.ofAddress?_of_lt_ram (by omega)]
  simp only [Option.some.injEq, Cell.ram.injEq, Fin.mk.injEq]
  omega

theorem Bus.byteAt_poke_stackAt_self (b : Bus) (x : UInt8) (v : UInt8) :
    (b.poke (stackAt x).toNat v).byteAt (stackAt x).toNat = v := by
  simp [Bus.byteAt, Bus.get_poke, Cell.ofAddress?_stackAt]

/-- A push to one slot leaves every other slot of page one alone. -/
theorem Bus.byteAt_poke_stackAt_of_ne (b : Bus) {x y : UInt8} (v : UInt8) (ne : x ≠ y) :
    (b.poke (stackAt x).toNat v).byteAt (stackAt y).toNat = b.byteAt (stackAt y).toNat := by
  have apart : x.toNat ≠ y.toNat := fun eq => ne (UInt8.toNat_inj.1 eq)
  simp only [Bus.byteAt, Bus.get_poke, Cell.ofAddress?_stackAt, Option.some.injEq, Cell.ram.injEq,
    Fin.mk.injEq]
  rw [if_neg (by omega)]

/-! ## Return addresses -/

theorem wordOf_toNat (lo hi : UInt8) : (wordOf lo hi).toNat = lo.toNat + 256 * hi.toNat := by
  have lo_lt := lo.toNat_lt
  have hi_lt := hi.toNat_lt
  have shifted : (hi.toUInt16 <<< 8).toNat = 2 ^ 8 * hi.toNat := by
    rw [UInt16.toNat_shiftLeft]
    simp only [UInt8.toNat_toUInt16, Nat.shiftLeft_eq]
    rw [show (8 : UInt16).toNat % 16 = 8 from rfl, Nat.mod_eq_of_lt (by omega)]
    ring
  rw [wordOf, UInt16.toNat_or, shifted, Nat.or_comm, ← Nat.two_pow_add_eq_or_of_lt (by simpa using lo_lt)]
  simp only [UInt8.toNat_toUInt16]
  omega

/-- A word split into its low and high byte and put back together is the word. -/
theorem wordOf_bytes (w : UInt16) : wordOf w.toUInt8 (w >>> 8).toUInt8 = w := by
  apply UInt16.toNat_inj.1
  have := w.toNat_lt
  rw [wordOf_toNat]
  simp only [UInt16.toNat_toUInt8, UInt16.toNat_shiftRight]
  rw [show (8 : UInt16).toNat % 16 = 8 from rfl, Nat.shiftRight_eq_div_pow]
  omega

/-! ## One step of a stack instruction -/

/-- Gaps read as 0, so an address holding anything else is mapped. -/
theorem Bus.not_inGap_of_byteAt_ne_zero {b : Bus} {a : Nat} (nonzero : b.byteAt a ≠ 0) : ¬ InGap a := by
  intro gap
  have none : Cell.ofAddress? a = none :=
    Cell.ofAddress?_eq_none_iff.2 (Region.ofAddress?_eq_none_iff.2 (.inl gap))
  simp [Bus.byteAt, none] at nonzero

/-- A step whose operation succeeds makes that operation's stores and answers its cycles. -/
theorem Machine.execute_of_effect {cpu : Cpu} {bus : Bus} {op : Operation} {eff : Effect}
    (running : cpu.phase = .running) (fetched : firstGapIn (Machine.fetchAddresses bus cpu.pc) = none)
    (defined : (lookup (bus.byteAt cpu.pc.toNat)).operation = some op)
    (effect : op.effect (Machine.fetched bus cpu.pc) (Machine.movedPast cpu bus) bus = .ok eff) :
    Machine.execute ⟨cpu, bus⟩ =
      (⟨eff.cpu, bus.storeAll eff.stores⟩, .ok (lookup (bus.byteAt cpu.pc.toNat)).cycles) := by
  rcases Machine.execute_cases bus running with ⟨g, first, -⟩ | ⟨-, ⟨undefined, -⟩ | ⟨op', defined', ran⟩⟩
  · rw [fetched] at first; cases first
  · rw [defined] at undefined; cases undefined
  · obtain rfl : op = op' := Option.some.inj (defined.symm.trans defined')
    rcases ran with ⟨e, refused, -⟩ | ⟨eff', effect', step⟩
    · rw [effect] at refused; cases refused
    · obtain rfl : eff = eff' := Except.ok.inj (effect.symm.trans effect')
      exact step

/-- A step that succeeds at a defined opcode ran its operation: it answers what the operation's
effect gives. -/
theorem Machine.execute_of_ok {cpu : Cpu} {bus : Bus} {op : Operation} {n : Nat}
    (running : cpu.phase = .running) (defined : (lookup (bus.byteAt cpu.pc.toNat)).operation = some op)
    (ok : (Machine.execute ⟨cpu, bus⟩).2 = .ok n) :
    ∃ eff, op.effect (Machine.fetched bus cpu.pc) (Machine.movedPast cpu bus) bus = .ok eff ∧
      Machine.execute ⟨cpu, bus⟩ =
        (⟨eff.cpu, bus.storeAll eff.stores⟩, .ok (lookup (bus.byteAt cpu.pc.toNat)).cycles) := by
  rcases Machine.execute_cases bus running with ⟨g, -, step⟩ | ⟨-, ⟨undefined, -⟩ | ⟨op', defined', ran⟩⟩
  · rw [step] at ok; cases ok
  · rw [defined] at undefined; cases undefined
  · obtain rfl : op = op' := Option.some.inj (defined.symm.trans defined')
    rcases ran with ⟨e, -, step⟩ | ⟨eff, effect, step⟩
    · rw [step] at ok; cases ok
    · exact ⟨eff, effect, step⟩

/-- A one-byte instruction whose opcode is not zero, so that its address is mapped, is fetched
and runs its operation on the processor moved one byte on. -/
theorem Machine.execute_of_one_byte {cpu : Cpu} {bus : Bus} {k : UInt8} {op : Operation} {eff : Effect}
    (running : cpu.phase = .running) (opcode : bus.byteAt cpu.pc.toNat = k) (nonzero : k ≠ 0)
    (oneByte : (Mode.nominal k).size = 1) (defined : (lookup k).operation = some op)
    (effect : op.effect (Machine.fetched bus cpu.pc) { cpu with pc := cpu.pc + 1 } bus = .ok eff) :
    Machine.execute ⟨cpu, bus⟩ = (⟨eff.cpu, bus.storeAll eff.stores⟩, .ok (lookup k).cycles) := by
  subst opcode
  have fetched : firstGapIn (Machine.fetchAddresses bus cpu.pc) = none := by
    apply firstGapIn_eq_none
    simp only [Machine.fetchAddresses, oneByte, List.range_one, List.map_cons, List.map_nil,
      List.mem_singleton, forall_eq]
    simpa using Bus.not_inGap_of_byteAt_ne_zero nonzero
  have moved : Machine.movedPast cpu bus = { cpu with pc := cpu.pc + 1 } := by
    simp only [Machine.movedPast, oneByte]
    rfl
  exact Machine.execute_of_effect running fetched defined (moved ▸ effect)

/-! ## Pushes and pulls, one step each -/

/-- Two pushes from `k` down: each slot holds its byte. -/
theorem Bus.byteAt_push_push (b : Bus) (k hi lo : UInt8) :
    ((b.poke (stackAt k).toNat hi).poke (stackAt (k - 1)).toNat lo).byteAt (stackAt k).toNat = hi ∧
    ((b.poke (stackAt k).toNat hi).poke (stackAt (k - 1)).toNat lo).byteAt (stackAt (k - 1)).toNat = lo := by
  have below : k - 1 ≠ k := by grind
  rw [Bus.byteAt_poke_stackAt_of_ne _ _ below, Bus.byteAt_poke_stackAt_self, Bus.byteAt_poke_stackAt_self]
  exact ⟨rfl, rfl⟩

/-- Three pushes from `k` down: each slot holds its byte. -/
theorem Bus.byteAt_push_push_push (b : Bus) (k hi lo p : UInt8) :
    let pushed := ((b.poke (stackAt k).toNat hi).poke (stackAt (k - 1)).toNat lo).poke
      (stackAt (k - 1 - 1)).toNat p
    pushed.byteAt (stackAt k).toNat = hi ∧ pushed.byteAt (stackAt (k - 1)).toNat = lo ∧
      pushed.byteAt (stackAt (k - 1 - 1)).toNat = p := by
  have third : k - 1 - 1 ≠ k := by grind
  have second : k - 1 - 1 ≠ k - 1 := by grind
  obtain ⟨high, low⟩ := Bus.byteAt_push_push b k hi lo
  simp only [Bus.byteAt_poke_stackAt_of_ne _ _ third, Bus.byteAt_poke_stackAt_of_ne _ _ second,
    Bus.byteAt_poke_stackAt_self, high, low, and_self]

/-- A `JSR` at `p` that runs pushes `p + 1`, the address of its own last byte, the high byte at
`$0100 | SP` and the low byte one below, and jumps to its operand word. -/
theorem Machine.execute_jsr {cpu : Cpu} {bus : Bus} (running : cpu.phase = .running)
    (jsr : bus.byteAt cpu.pc.toNat = 0x20) {n : Nat} (ok : (Machine.execute ⟨cpu, bus⟩).2 = .ok n) :
    (Machine.execute ⟨cpu, bus⟩).1 =
      ⟨{ cpu with sp := cpu.sp - 1 - 1, pc := (Machine.fetched bus cpu.pc).word },
        (bus.poke (stackAt cpu.sp).toNat ((cpu.pc + 1) >>> 8).toUInt8).poke
          (stackAt (cpu.sp - 1)).toNat (cpu.pc + 1).toUInt8⟩ := by
  have defined : (lookup (bus.byteAt cpu.pc.toNat)).operation = some .jsr := by rw [jsr]; rfl
  obtain ⟨eff, effect, step⟩ := Machine.execute_of_ok running defined ok
  rw [Operation.effect_jsr] at effect
  cases effect
  -- the program counter has moved past the three bytes of the instruction
  have ret : (Machine.movedPast cpu bus).pc - 2 = cpu.pc + 1 := by
    simp only [Machine.movedPast, jsr]
    change cpu.pc + 3 - 2 = cpu.pc + 1
    grind
  rw [step]
  simp only [ret]
  rfl

/-- A `BRK` at `p` that runs pushes `p + 1`, high byte first, then the status byte, and jumps
through the vector at `$FFFE` with break and interrupt-disable set. -/
theorem Machine.execute_brk {cpu : Cpu} {bus : Bus} (running : cpu.phase = .running)
    (brk : bus.byteAt cpu.pc.toNat = 0x00) {n : Nat} (ok : (Machine.execute ⟨cpu, bus⟩).2 = .ok n) :
    (Machine.execute ⟨cpu, bus⟩).1 =
      ⟨{ (({ cpu with sp := cpu.sp - 1 - 1 - 1 } : Cpu).setFlag .brk true).setFlag .interruptDisable true
          with pc := bus.vectorAt breakVector.toNat },
        ((bus.poke (stackAt cpu.sp).toNat ((cpu.pc + 1) >>> 8).toUInt8).poke
          (stackAt (cpu.sp - 1)).toNat (cpu.pc + 1).toUInt8).poke
            (stackAt (cpu.sp - 1 - 1)).toNat cpu.status.bits⟩ := by
  have defined : (lookup (bus.byteAt cpu.pc.toNat)).operation = some .brk := by rw [brk]; rfl
  obtain ⟨eff, effect, step⟩ := Machine.execute_of_ok running defined ok
  rw [Operation.effect_brk] at effect
  cases effect
  -- `BRK` is one byte long
  have ret : (Machine.movedPast cpu bus).pc = cpu.pc + 1 := by
    simp only [Machine.movedPast, brk]
    rfl
  rw [step]
  simp only [ret]
  rfl

/-- A `PHA` that runs stores the accumulator at `$0100 | SP` and moves the stack pointer down. -/
theorem Machine.execute_pha {cpu : Cpu} {bus : Bus} (running : cpu.phase = .running)
    (pha : bus.byteAt cpu.pc.toNat = 0x48) {n : Nat} (ok : (Machine.execute ⟨cpu, bus⟩).2 = .ok n) :
    (Machine.execute ⟨cpu, bus⟩).1.cpu.sp = cpu.sp - 1 ∧
    (Machine.execute ⟨cpu, bus⟩).1.bus = bus.poke (stackAt cpu.sp).toNat cpu.a := by
  have defined : (lookup (bus.byteAt cpu.pc.toNat)).operation = some (.push .accumulator) := by
    rw [pha]; rfl
  obtain ⟨eff, effect, step⟩ := Machine.execute_of_ok running defined ok
  rw [Operation.effect_pha] at effect
  cases effect
  rw [step]
  exact ⟨rfl, rfl⟩

/-- A `PHP` that runs stores the status byte at `$0100 | SP` and moves the stack pointer down. -/
theorem Machine.execute_php {cpu : Cpu} {bus : Bus} (running : cpu.phase = .running)
    (php : bus.byteAt cpu.pc.toNat = 0x08) {n : Nat} (ok : (Machine.execute ⟨cpu, bus⟩).2 = .ok n) :
    (Machine.execute ⟨cpu, bus⟩).1.cpu.sp = cpu.sp - 1 ∧
    (Machine.execute ⟨cpu, bus⟩).1.bus = bus.poke (stackAt cpu.sp).toNat cpu.status.bits := by
  have defined : (lookup (bus.byteAt cpu.pc.toNat)).operation = some (.push .status) := by
    rw [php]; rfl
  obtain ⟨eff, effect, step⟩ := Machine.execute_of_ok running defined ok
  rw [Operation.effect_php] at effect
  cases effect
  rw [step]
  exact ⟨rfl, rfl⟩

/-- `RTS` pulls the return address from the two slots above the stack pointer, low byte first,
and resumes two bytes past it. It never fails where its opcode can be read. -/
theorem Machine.execute_rts {cpu : Cpu} {bus : Bus} (running : cpu.phase = .running)
    (rts : bus.byteAt cpu.pc.toNat = 0x60) :
    Machine.execute ⟨cpu, bus⟩ = (⟨{ cpu with
      sp := cpu.sp + 1 + 1
      pc := wordOf (bus.byteAt (stackAt (cpu.sp + 1)).toNat)
        (bus.byteAt (stackAt (cpu.sp + 1 + 1)).toNat) + 2 }, bus⟩, .ok 6) := by
  rw [Machine.execute_of_one_byte running rts (by decide) rfl rfl (Operation.effect_rts _ _ _)]
  rfl

/-- `RTI` pulls the status byte from the slot above the stack pointer, then the program counter
from the two above it, low byte first. -/
theorem Machine.execute_rti {cpu : Cpu} {bus : Bus} (running : cpu.phase = .running)
    (rti : bus.byteAt cpu.pc.toNat = 0x40) :
    Machine.execute ⟨cpu, bus⟩ = (⟨{ cpu with
      sp := cpu.sp + 1 + 1 + 1
      status := ⟨bus.byteAt (stackAt (cpu.sp + 1)).toNat⟩
      pc := wordOf (bus.byteAt (stackAt (cpu.sp + 1 + 1)).toNat)
        (bus.byteAt (stackAt (cpu.sp + 1 + 1 + 1)).toNat) }, bus⟩, .ok 6) := by
  rw [Machine.execute_of_one_byte running rti (by decide) rfl rfl (Operation.effect_rti _ _ _)]
  rfl

/-- `PLA` loads the byte in the slot above the stack pointer, setting zero and negative. -/
theorem Machine.execute_pla {cpu : Cpu} {bus : Bus} (running : cpu.phase = .running)
    (pla : bus.byteAt cpu.pc.toNat = 0x68) :
    Machine.execute ⟨cpu, bus⟩ =
      (⟨({ cpu with sp := cpu.sp + 1, pc := cpu.pc + 1 }).loadReg .a
        (bus.byteAt (stackAt (cpu.sp + 1)).toNat), bus⟩, .ok 4) := by
  rw [Machine.execute_of_one_byte running pla (by decide) rfl rfl (Operation.effect_pla _ _ _)]
  rfl

/-- `PLP` takes the byte in the slot above the stack pointer as the whole status byte. -/
theorem Machine.execute_plp {cpu : Cpu} {bus : Bus} (running : cpu.phase = .running)
    (plp : bus.byteAt cpu.pc.toNat = 0x28) :
    Machine.execute ⟨cpu, bus⟩ = (⟨{ cpu with
      sp := cpu.sp + 1
      status := ⟨bus.byteAt (stackAt (cpu.sp + 1)).toNat⟩
      pc := cpu.pc + 1 }, bus⟩, .ok 4) := by
  rw [Machine.execute_of_one_byte running plp (by decide) rfl rfl (Operation.effect_plp _ _ _)]
  rfl

/-! ## What a push leaves, and what the matching pull restores -/

/-- The stack slots from `k` down hold `vs`, first byte in slot `k`. -/
def Bus.StackHolds (b : Bus) (k : UInt8) : List UInt8 → Prop
  | [] => True
  | v :: vs => b.byteAt (stackAt k).toNat = v ∧ b.StackHolds (k - 1) vs

/-- `vs` sits on the stack as pushed from slot `k`: the slots from `k` down hold it and the stack
pointer is just below it. -/
structure Machine.Pushed (m : Machine) (k : UInt8) (vs : List UInt8) : Prop where
  sp : m.cpu.sp = k - vs.length.toUInt8
  slots : m.bus.StackHolds k vs

theorem Machine.jsr_pushes_return {cpu : Cpu} {bus : Bus} (running : cpu.phase = .running)
    (jsr : bus.byteAt cpu.pc.toNat = 0x20) {n : Nat} (ok : (Machine.execute ⟨cpu, bus⟩).2 = .ok n) :
    (Machine.execute ⟨cpu, bus⟩).1.Pushed cpu.sp [((cpu.pc + 1) >>> 8).toUInt8, (cpu.pc + 1).toUInt8] := by
  rw [Machine.execute_jsr running jsr ok]
  obtain ⟨hi, lo⟩ := Bus.byteAt_push_push bus cpu.sp ((cpu.pc + 1) >>> 8).toUInt8 (cpu.pc + 1).toUInt8
  refine ⟨?_, ?_⟩
  · change cpu.sp - 1 - 1 = cpu.sp - 2
    grind
  · simp only [Bus.StackHolds]
    exact ⟨hi, lo, trivial⟩

theorem Machine.brk_pushes_return {cpu : Cpu} {bus : Bus} (running : cpu.phase = .running)
    (brk : bus.byteAt cpu.pc.toNat = 0x00) {n : Nat} (ok : (Machine.execute ⟨cpu, bus⟩).2 = .ok n) :
    (Machine.execute ⟨cpu, bus⟩).1.Pushed cpu.sp
      [((cpu.pc + 1) >>> 8).toUInt8, (cpu.pc + 1).toUInt8, cpu.status.bits] := by
  rw [Machine.execute_brk running brk ok]
  obtain ⟨hi, lo, status⟩ :=
    Bus.byteAt_push_push_push bus cpu.sp ((cpu.pc + 1) >>> 8).toUInt8 (cpu.pc + 1).toUInt8 cpu.status.bits
  refine ⟨?_, ?_⟩
  · change cpu.sp - 1 - 1 - 1 = cpu.sp - 3
    grind
  · simp only [Bus.StackHolds]
    exact ⟨hi, lo, status, trivial⟩

theorem Machine.pha_pushes {cpu : Cpu} {bus : Bus} (running : cpu.phase = .running)
    (pha : bus.byteAt cpu.pc.toNat = 0x48) {n : Nat} (ok : (Machine.execute ⟨cpu, bus⟩).2 = .ok n) :
    (Machine.execute ⟨cpu, bus⟩).1.Pushed cpu.sp [cpu.a] := by
  obtain ⟨sp, pushed⟩ := Machine.execute_pha running pha ok
  refine ⟨sp, ?_⟩
  simp only [Bus.StackHolds, pushed, Bus.byteAt_poke_stackAt_self, and_true]

theorem Machine.php_pushes {cpu : Cpu} {bus : Bus} (running : cpu.phase = .running)
    (php : bus.byteAt cpu.pc.toNat = 0x08) {n : Nat} (ok : (Machine.execute ⟨cpu, bus⟩).2 = .ok n) :
    (Machine.execute ⟨cpu, bus⟩).1.Pushed cpu.sp [cpu.status.bits] := by
  obtain ⟨sp, pushed⟩ := Machine.execute_php running php ok
  refine ⟨sp, ?_⟩
  simp only [Bus.StackHolds, pushed, Bus.byteAt_poke_stackAt_self, and_true]

/-- An `RTS` that finds the return address of a call at `p` pushed from `k` resumes at `p + 3`
with the stack pointer back at `k`, whatever ran in between. -/
theorem Machine.rts_after_jsr {cpu : Cpu} {bus : Bus} (k : UInt8) (p : UInt16)
    (running : cpu.phase = .running) (rts : bus.byteAt cpu.pc.toNat = 0x60)
    (pushed : Machine.Pushed ⟨cpu, bus⟩ k [((p + 1) >>> 8).toUInt8, (p + 1).toUInt8]) :
    Machine.execute ⟨cpu, bus⟩ = (⟨{ cpu with sp := k, pc := p + 3 }, bus⟩, .ok 6) := by
  obtain ⟨sp, hi, lo, -⟩ := pushed
  have low : cpu.sp + 1 = k - 1 := by
    change cpu.sp = k - 2 at sp
    rw [sp]; grind
  have high : cpu.sp + 1 + 1 = k := by rw [low]; grind
  have resume : p + 1 + 2 = p + 3 := by grind
  rw [Machine.execute_rts running rts, high, low]
  change _ = _ at hi lo
  rw [hi, lo, wordOf_bytes, resume]

/-- An `RTI` that finds what `BRK` at `p` pushed from `k` resumes at `p + 1` with the status byte
pushed, all eight bits of it, and the stack pointer back at `k`. -/
theorem Machine.rti_after_brk {cpu : Cpu} {bus : Bus} (k : UInt8) (p : UInt16) (status : Status)
    (running : cpu.phase = .running) (rti : bus.byteAt cpu.pc.toNat = 0x40)
    (pushed : Machine.Pushed ⟨cpu, bus⟩ k [((p + 1) >>> 8).toUInt8, (p + 1).toUInt8, status.bits]) :
    Machine.execute ⟨cpu, bus⟩ = (⟨{ cpu with sp := k, status := status, pc := p + 1 }, bus⟩, .ok 6) := by
  obtain ⟨sp, hi, lo, pushedStatus, -⟩ := pushed
  change cpu.sp = k - 3 at sp
  -- the three pulls climb back through the slots `k - 2`, `k - 1` and `k`
  have third : cpu.sp + 1 = k - 1 - 1 := by rw [sp]; grind
  have second : cpu.sp + 1 + 1 = k - 1 := by rw [third]; grind
  have first : cpu.sp + 1 + 1 + 1 = k := by rw [second]; grind
  rw [Machine.execute_rti running rti, first, second, third]
  change _ = _ at hi lo pushedStatus
  rw [hi, lo, pushedStatus, wordOf_bytes]

/-- A `PLA` that finds `v` pushed from `k` loads it, with zero and negative, and puts the stack
pointer back at `k`. -/
theorem Machine.pla_after_pha {cpu : Cpu} {bus : Bus} (k v : UInt8)
    (running : cpu.phase = .running) (pla : bus.byteAt cpu.pc.toNat = 0x68)
    (pushed : Machine.Pushed ⟨cpu, bus⟩ k [v]) :
    Machine.execute ⟨cpu, bus⟩ = (⟨({ cpu with sp := k, pc := cpu.pc + 1 }).loadReg .a v, bus⟩, .ok 4) := by
  obtain ⟨sp, pulled, -⟩ := pushed
  have back : cpu.sp + 1 = k := by
    change cpu.sp = k - 1 at sp
    rw [sp]; grind
  rw [Machine.execute_pla running pla, back]
  change _ = _ at pulled
  rw [pulled]

/-- A `PLP` that finds a status byte pushed from `k` restores it whole and puts the stack pointer
back at `k`. -/
theorem Machine.plp_after_php {cpu : Cpu} {bus : Bus} (k : UInt8) (status : Status)
    (running : cpu.phase = .running) (plp : bus.byteAt cpu.pc.toNat = 0x28)
    (pushed : Machine.Pushed ⟨cpu, bus⟩ k [status.bits]) :
    Machine.execute ⟨cpu, bus⟩ = (⟨{ cpu with sp := k, status := status, pc := cpu.pc + 1 }, bus⟩, .ok 4) := by
  obtain ⟨sp, pulled, -⟩ := pushed
  have back : cpu.sp + 1 = k := by
    change cpu.sp = k - 1 at sp
    rw [sp]; grind
  rw [Machine.execute_plp running plp, back]
  change _ = _ at pulled
  rw [pulled]

/-! ## The round trips -/

/-- Every push the machine makes is undone by its matching pull, at every stack pointer `k`
(pushes wrap from `$0100` to `$01FF`) and across any run in between: what `JSR`, `BRK`, `PHA` or
`PHP` leaves on the stack is the return address `p + 1` high byte first, that address and the
status byte, the accumulator, or the status byte; and from any running state whose stack pointer
is back where the push left it with those slots still holding what it wrote, `RTS` resumes at
`p + 3`, `RTI` at `p + 1` with the whole status byte, `PLA` reloads the accumulator with zero and
negative, and `PLP` restores the whole status byte, each with the stack pointer back at `k` and
every other register and flag as it found them. -/
theorem Machine.stack_round_trips {cpu : Cpu} {bus : Bus} (running : cpu.phase = .running) {n : Nat}
    (ok : (Machine.execute ⟨cpu, bus⟩).2 = .ok n) :
    (bus.byteAt cpu.pc.toNat = 0x20 →
      (Machine.execute ⟨cpu, bus⟩).1.Pushed cpu.sp [((cpu.pc + 1) >>> 8).toUInt8, (cpu.pc + 1).toUInt8] ∧
      ∀ t : Machine, t.cpu.phase = .running → t.bus.byteAt t.cpu.pc.toNat = 0x60 →
        t.Pushed cpu.sp [((cpu.pc + 1) >>> 8).toUInt8, (cpu.pc + 1).toUInt8] →
        Machine.execute t = (⟨{ t.cpu with sp := cpu.sp, pc := cpu.pc + 3 }, t.bus⟩, .ok 6)) ∧
    (bus.byteAt cpu.pc.toNat = 0x00 →
      (Machine.execute ⟨cpu, bus⟩).1.Pushed cpu.sp
        [((cpu.pc + 1) >>> 8).toUInt8, (cpu.pc + 1).toUInt8, cpu.status.bits] ∧
      ∀ t : Machine, t.cpu.phase = .running → t.bus.byteAt t.cpu.pc.toNat = 0x40 →
        t.Pushed cpu.sp [((cpu.pc + 1) >>> 8).toUInt8, (cpu.pc + 1).toUInt8, cpu.status.bits] →
        Machine.execute t =
          (⟨{ t.cpu with sp := cpu.sp, status := cpu.status, pc := cpu.pc + 1 }, t.bus⟩, .ok 6)) ∧
    (bus.byteAt cpu.pc.toNat = 0x48 →
      (Machine.execute ⟨cpu, bus⟩).1.Pushed cpu.sp [cpu.a] ∧
      ∀ t : Machine, t.cpu.phase = .running → t.bus.byteAt t.cpu.pc.toNat = 0x68 →
        t.Pushed cpu.sp [cpu.a] →
        Machine.execute t =
          (⟨({ t.cpu with sp := cpu.sp, pc := t.cpu.pc + 1 }).loadReg .a cpu.a, t.bus⟩, .ok 4)) ∧
    (bus.byteAt cpu.pc.toNat = 0x08 →
      (Machine.execute ⟨cpu, bus⟩).1.Pushed cpu.sp [cpu.status.bits] ∧
      ∀ t : Machine, t.cpu.phase = .running → t.bus.byteAt t.cpu.pc.toNat = 0x28 →
        t.Pushed cpu.sp [cpu.status.bits] →
        Machine.execute t =
          (⟨{ t.cpu with sp := cpu.sp, status := cpu.status, pc := t.cpu.pc + 1 }, t.bus⟩, .ok 4)) := by
  refine ⟨fun jsr => ⟨Machine.jsr_pushes_return running jsr ok, ?_⟩,
    fun brk => ⟨Machine.brk_pushes_return running brk ok, ?_⟩,
    fun pha => ⟨Machine.pha_pushes running pha ok, ?_⟩,
    fun php => ⟨Machine.php_pushes running php ok, ?_⟩⟩
  all_goals rintro ⟨cpu', bus'⟩ running' pull pushed
  · exact Machine.rts_after_jsr cpu.sp cpu.pc running' pull pushed
  · exact Machine.rti_after_brk cpu.sp cpu.pc cpu.status running' pull pushed
  · exact Machine.pla_after_pha cpu.sp cpu.a running' pull pushed
  · exact Machine.plp_after_php cpu.sp cpu.status running' pull pushed

/-- After a reset to `$0000` over cleared RAM, the `BRK` read there leaves `$0001` and the status
byte on the stack for `RTI` to restore. -/
theorem brk_from_cleared_ram_round_trips :
    (Cpu.afterReset 0).phase = .running ∧ (Machine.execute ⟨Cpu.afterReset 0, Bus.empty⟩).2 = .ok 7 ∧
    (Machine.execute ⟨Cpu.afterReset 0, Bus.empty⟩).1.Pushed Cpu.stackTop [0x00, 0x01, 0x00] := by
  have ran : (Machine.execute ⟨Cpu.afterReset 0, Bus.empty⟩).2 = .ok 7 := by decide
  exact ⟨rfl, ran, ((Machine.stack_round_trips rfl ran).2.1 (by decide)).1⟩

end NesMachine
