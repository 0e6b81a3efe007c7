import NesMachine.Console
/-!
# Reading an instruction without running it

`Console.instructionAt` lists the bytes of the instruction at an address; `Machine.fetchAt` is
the first stage of a step. They are written separately: one reads the operand bytes by counting
from the opcode, the other reads the low and the high operand byte by name. This module shows
they read the same bytes, wrap at `$FFFF` the same way and fail at the same address:

* `Console.instructionAt_eq_map_fetchAt`: the listing is the fetch's result, as bytes;
* `Machine.fetchAt_bytes`: those are the bytes at `addr`, `addr + 1`, `addr + 2` modulo 2^16, as
  many as the opcode's size;
* `Machine.fetchAt_error`: a refusal is `Unmapped` at one of those addresses;
* `Machine.traceLine_of_running`: the line a running step logs is the text of what it fetched, so
  the listing's text is the step's trace.
-/

namespace NesMachine

/-! ## The fetch stage -/

/-- Only a gap refuses a fetch, and the error names the gap address that was read. -/
theorem Machine.fetchAt_error {bus : Bus} {pc : UInt16} {e : BusError}
    (h : Machine.fetchAt bus pc = .error e) :
    e = .unmapped pc ∨ e = .unmapped (pc + 1) ∨ e = .unmapped (pc + 2) := by
  unfold Machine.fetchAt at h
  cases hop : bus.readByte pc with
  | error e' =>
    simp only [hop, bind, Except.bind] at h
    cases h; exact .inl (Bus.readByte_error hop)
  | ok opcode =>
    simp only [hop, bind, Except.bind] at h
    by_cases two : (lookup opcode).size ≥ 2
    · cases hlo : bus.readByte (pc + 1) with
      | error e' =>
        simp only [two, hlo, if_true] at h
        cases h; exact .inr (.inl (Bus.readByte_error hlo))
      | ok lo =>
        simp only [two, hlo, if_true] at h
        by_cases three : (lookup opcode).size ≥ 3
        · cases hhi : bus.readByte (pc + 2) with
          | error e' =>
            simp only [three, hhi, if_true] at h
            cases h; exact .inr (.inr (Bus.readByte_error hhi))
          | ok hi => simp [three, hhi, pure, Except.pure] at h
        · simp [three, pure, Except.pure] at h
    · -- a one-byte instruction reads nothing after its opcode
      have : ¬ (lookup opcode).size ≥ 3 := by omega
      simp [two, this, pure, Except.pure] at h

/-- A fetched instruction occupies the bytes from `pc` upwards, modulo 2^16, as many as its
opcode's size. -/
theorem Machine.fetchAt_bytes {bus : Bus} {pc : UInt16} {ins : Instruction}
    (h : Machine.fetchAt bus pc = .ok ins) :
    ins.bytes = (List.range (lookup ins.opcode).size).map
      (fun i => bus.byteAt (pc + i.toUInt16).toNat) := by
  unfold Machine.fetchAt at h
  cases hop : bus.readByte pc with
  | error e => simp [hop, bind, Except.bind] at h
  | ok opcode =>
    have vop := Bus.readByte_ok hop
    simp only [hop, bind, Except.bind] at h
    rcases Mode.size_cases (Mode.nominal opcode) with s | s | s <;> subst vop
    · simp [Opcode.size, Opcode.mode, lookup_byte, s, pure, Except.pure] at h
      subst h
      simp [Instruction.bytes, Opcode.size, Opcode.mode, lookup_byte, s]
    · cases hlo : bus.readByte (pc + 1) with
      | error e => simp [Opcode.size, Opcode.mode, lookup_byte, s, hlo] at h
      | ok lo =>
        simp [Opcode.size, Opcode.mode, lookup_byte, s, hlo, pure, Except.pure] at h
        subst h
        simp [Instruction.bytes, Opcode.size, Opcode.mode, lookup_byte, s,
          Bus.readByte_ok hlo, List.range_succ]
    · cases hlo : bus.readByte (pc + 1) with
      | error e => simp [Opcode.size, Opcode.mode, lookup_byte, s, hlo] at h
      | ok lo =>
        cases hhi : bus.readByte (pc + 2) with
        | error e => simp [Opcode.size, Opcode.mode, lookup_byte, s, hlo, hhi] at h
        | ok hi =>
          simp [Opcode.size, Opcode.mode, lookup_byte, s, hlo, hhi, pure, Except.pure] at h
          subst h
          simp [Instruction.bytes, Opcode.size, Opcode.mode, lookup_byte, s,
            Bus.readByte_ok hlo, Bus.readByte_ok hhi, List.range_succ]

/-- A step that cannot fetch its instruction stops with the fetch's error and changes nothing. -/
theorem Machine.execute_of_fetchAt_error {cpu : Cpu} {bus : Bus} {e : BusError}
    (running : cpu.phase = .running) (h : Machine.fetchAt bus cpu.pc = .error e) :
    Machine.execute ⟨cpu, bus⟩ = (⟨cpu, bus⟩, .error (.bus e)) := by
  simp [Machine.execute, running, h]

/-- A running step logs the text of the instruction its fetch reads, after its program counter,
and logs nothing when the fetch is refused. -/
theorem Machine.traceLine_of_running {cpu : Cpu} {bus : Bus} (running : cpu.phase = .running) :
    Machine.traceLine ⟨cpu, bus⟩ = (Machine.fetchAt bus cpu.pc).toOption.map fun ins =>
      Text.hexUpper 4 cpu.pc.toNat ++ "  " ++ disassemble ins.bytes := by
  simp [Machine.traceLine, running]

/-! ## The listing -/

/-- The listing reads what the fetch stage reads, and fails where it fails. -/
theorem Console.instructionAt_eq_map_fetchAt (c : Console) (addr : UInt16) :
    c.instructionAt addr = (Machine.fetchAt c.machine.bus addr).map Instruction.bytes := by
  unfold Console.instructionAt Machine.fetchAt
  cases hop : c.machine.bus.readByte addr with
  | error e => simp [Except.map, bind, Except.bind]
  | ok opcode =>
    simp only [Opcode.size, Opcode.mode, lookup_byte]
    rcases Mode.size_cases (Mode.nominal opcode) with h | h | h
    · simp [h, Except.map, bind, Except.bind, Instruction.bytes, pure, Except.pure]
    · cases hlo : c.machine.bus.readByte (addr + 1) <;>
        simp [h, hlo, Except.map, bind, Except.bind, Instruction.bytes, pure, Except.pure,
          List.range_succ]
    · cases hlo : c.machine.bus.readByte (addr + 1) <;>
        cases hhi : c.machine.bus.readByte (addr + 2) <;>
        simp [h, hlo, hhi, Except.map, bind, Except.bind, Instruction.bytes, pure, Except.pure,
          List.range_succ]

theorem error_of_map_eq_error {ε α β : Type} {f : α → β} {x : Except ε α} {e : ε}
    (h : x.map f = .error e) : x = .error e := by
  cases x <;> simp_all [Except.map]

/-- The listing at `addr` and a step from `addr` agree: the listing is the bytes of the
instruction the step hands to its operation, which lie at `addr`, `addr + 1`, `addr + 2` modulo
2^16 as far as the opcode's size reaches; when the listing fails it reports the gap address the
step's fetch stops at, and the step stops there with the same error, changing nothing. So the
line a step from `addr` logs is `addr` in hex followed by the listing's text, and there is none
when the listing fails. -/
theorem instructionAt_matches_fetch (c : Console) (addr : UInt16) :
    c.instructionAt addr = (Machine.fetchAt c.machine.bus addr).map Instruction.bytes ∧
    (∀ ins, Machine.fetchAt c.machine.bus addr = .ok ins →
      ins.bytes = (List.range (lookup ins.opcode).size).map
        (fun i => c.machine.bus.byteAt (addr + i.toUInt16).toNat)) ∧
    (∀ e, c.instructionAt addr = .error e →
      (e = .unmapped addr ∨ e = .unmapped (addr + 1) ∨ e = .unmapped (addr + 2)) ∧
      ∀ cpu : Cpu, cpu.phase = .running → cpu.pc = addr →
        Machine.execute ⟨cpu, c.machine.bus⟩ = (⟨cpu, c.machine.bus⟩, .error (.bus e))) ∧
    (∀ cpu : Cpu, cpu.phase = .running → cpu.pc = addr →
      Machine.traceLine ⟨cpu, c.machine.bus⟩ = (c.instructionAt addr).toOption.map fun bytes =>
        Text.hexUpper 4 addr.toNat ++ "  " ++ disassemble bytes) := by
  have listing := Console.instructionAt_eq_map_fetchAt c addr
  refine ⟨listing, fun _ h => Machine.fetchAt_bytes h, fun e h => ?_, fun cpu running pc => ?_⟩
  · have fetch := error_of_map_eq_error (listing ▸ h)
    refine ⟨Machine.fetchAt_error fetch, fun cpu running pc => ?_⟩
    subst pc
    exact Machine.execute_of_fetchAt_error running fetch
  · -- the step logs what it fetched, and the listing is the fetch's bytes
    subst pc
    rw [Machine.traceLine_of_running running, listing]
    cases Machine.fetchAt c.machine.bus cpu.pc <;> rfl

end NesMachine
