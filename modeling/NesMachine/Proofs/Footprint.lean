import NesMachine.Proofs.StepFailure
/-!
# What a step may change

Every instruction moves the program counter; beyond that, each operation touches a small, fixed
part of the machine, its footprint (`Operation.footprint`): a load changes its register and the
zero and negative flags, a store one byte, a push the stack pointer and one byte of page one,
a flag instruction its flag, and so on. An undefined opcode touches nothing. The footprint is
written from the processor's documentation, not from `Operation.effect`, and depends only on
the operand the instruction designates and on the stack pointer.

`Cpu.Agrees regs flags c c'` says that `c'` differs from `c` at most in the program counter and
in the registers `regs` and the flags `flags`. It is reflexive, transitive and monotone in the
two lists, so each operation's footprint is put together from the few updates it makes.

* `Operation.effect_covers`: an operation that succeeds stays within its footprint, its stores
  included;
* `Machine.execute_frames`: a step that succeeds changes no register, flag or memory cell
  outside the footprint of its opcode, and never graphics memory;
* `Machine.steps_graphics`: no run of instructions, of any length, changes graphics memory;
* `Machine.execute_footprint`: both together.
-/

namespace NesMachine

/-! ## Flags as bits of the status byte -/

/-- Setting bits that lie outside a mask leaves the bits under the mask alone. -/
theorem UInt8.or_and_of_and_eq_zero {b m m' : UInt8} (disjoint : m &&& m' = 0) :
    (b ||| m) &&& m' = b &&& m' := by
  apply UInt8.toBitVec_inj.1
  have bits := congrArg UInt8.toBitVec disjoint
  simp only [UInt8.toBitVec_and, UInt8.toBitVec_or] at bits ⊢
  rw [BitVec.and_or_distrib_right, bits]
  exact BitVec.or_zero

/-- Clearing bits that lie outside a mask leaves the bits under the mask alone. -/
theorem UInt8.and_not_and_of_and_eq_zero {b m m' : UInt8} (disjoint : m &&& m' = 0) :
    (b &&& ~~~m) &&& m' = b &&& m' := by
  apply UInt8.toBitVec_inj.1
  have bits := congrArg UInt8.toBitVec disjoint
  simp only [UInt8.toBitVec_and, UInt8.toBitVec_not] at bits ⊢
  ext i hi
  -- bit `i` is never set in both masks
  have apart := congrArg (·[i]) bits
  simp only [BitVec.getElem_and, BitVec.getElem_not] at apart ⊢
  cases hm : m.toBitVec[i] <;> cases hm' : m'.toBitVec[i] <;> simp_all

theorem Flag.mask_and_mask_of_ne {f g : Flag} (ne : f ≠ g) : f.mask &&& g.mask = 0 := by
  cases f <;> cases g <;> first | exact absurd rfl ne | rfl

theorem Flag.mem_all (f : Flag) : f ∈ Flag.all := by
  cases f <;> simp [Flag.all]

/-- Setting or clearing one flag leaves every other flag as it was. -/
theorem Status.get_set_of_ne (s : Status) {f g : Flag} (v : Bool) (ne : f ≠ g) :
    (s.set f v).get g = s.get g := by
  have disjoint := Flag.mask_and_mask_of_ne ne
  cases v <;> simp only [Status.set, Status.get, Bool.false_eq_true, if_false, if_true,
    UInt8.or_and_of_and_eq_zero disjoint, UInt8.and_not_and_of_and_eq_zero disjoint]

/-! ## Registers that agree -/

/-- `c'` differs from `c` at most in the program counter, the registers `regs` and the flags
`flags`; the phase is the same. -/
structure Cpu.Agrees (regs : List Register) (flags : List Flag) (c c' : Cpu) : Prop where
  reg : ∀ r, r ∉ regs → c'.reg r = c.reg r
  flag : ∀ f, f ∉ flags → c'.flag f = c.flag f
  phase : c'.phase = c.phase

namespace Cpu.Agrees

variable {regs regs' : List Register} {flags flags' : List Flag} {c c' c'' : Cpu}

theorem refl (regs : List Register) (flags : List Flag) (c : Cpu) : Agrees regs flags c c :=
  ⟨fun _ _ => rfl, fun _ _ => rfl, rfl⟩

theorem trans (h : Agrees regs flags c c') (h' : Agrees regs flags c' c'') :
    Agrees regs flags c c'' :=
  ⟨fun r hr => (h'.reg r hr).trans (h.reg r hr), fun f hf => (h'.flag f hf).trans (h.flag f hf),
    h'.phase.trans h.phase⟩

theorem mono (h : Agrees regs flags c c') (sub : regs ⊆ regs') (sub' : flags ⊆ flags') :
    Agrees regs' flags' c c' :=
  ⟨fun r hr => h.reg r (fun mem => hr (sub mem)), fun f hf => h.flag f (fun mem => hf (sub' mem)),
    h.phase⟩

/-- Moving the program counter changes nothing else. -/
theorem setPc (c : Cpu) (pc : UInt16) : Agrees [] [] c { c with pc := pc } :=
  ⟨fun r _ => by cases r <;> rfl, fun _ _ => rfl, rfl⟩

theorem setReg (c : Cpu) (r : Register) (v : UInt8) : Agrees [r] [] c (c.setReg r v) := by
  refine ⟨fun r' hr' => ?_, fun _ _ => by cases r <;> rfl, by cases r <;> rfl⟩
  have ne : r' ≠ r := by simpa using hr'
  cases r <;> cases r' <;> first | exact absurd rfl ne | rfl

/-- Replacing the status byte keeps the registers. -/
theorem setStatus (c : Cpu) (s : Status) : Agrees [] Flag.all c { c with status := s } :=
  ⟨fun r _ => by cases r <;> rfl, fun f hf => absurd (Flag.mem_all f) hf, rfl⟩

/-- Setting one flag keeps the other seven. -/
theorem setFlag (c : Cpu) (f : Flag) (v : Bool) : Agrees [] [f] c (c.setFlag f v) := by
  refine ⟨fun r _ => by cases r <;> rfl, fun g hg => ?_, rfl⟩
  have ne : f ≠ g := fun eq => hg (by simp [eq])
  exact Status.get_set_of_ne c.status v ne

theorem setZN (c : Cpu) (v : UInt8) :
    Agrees [] [.zero, .negative] c { c with status := c.status.setZN v } := by
  refine ⟨fun r _ => by cases r <;> rfl, fun f hf => ?_, rfl⟩
  simp only [List.mem_cons, List.not_mem_nil, or_false, not_or] at hf
  simp only [Cpu.flag, Status.setZN]
  rw [Status.get_set_of_ne _ _ (Ne.symm hf.2), Status.get_set_of_ne _ _ (Ne.symm hf.1)]

/-- A load changes its register and the zero and negative flags. -/
theorem loadReg (c : Cpu) (r : Register) (v : UInt8) :
    Agrees [r] [.zero, .negative] c (c.loadReg r v) := by
  have zn := setZN (c.setReg r v) v
  have status : (c.setReg r v).status = c.status := by cases r <;> rfl
  rw [status] at zn
  exact ((setReg c r v).mono (List.Subset.refl _) (by simp)).trans
    (zn.mono (by simp) (List.Subset.refl _))

/-- A compare changes carry, zero and negative. -/
theorem compareWith (c : Cpu) (reg m : UInt8) :
    Agrees [] [.carry, .zero, .negative] c (c.compareWith reg m) := by
  have carry := setFlag c .carry (reg ≥ m)
  have zn := setZN (c.setFlag .carry (reg ≥ m)) (reg - m)
  exact (carry.mono (List.Subset.refl _) (by simp)).trans (zn.mono (List.Subset.refl _) (by simp))

end Cpu.Agrees

/-! ## Stores -/

/-- Stores aimed at other cells leave a cell as it was. -/
theorem Bus.get_storeAll_of_unreached (b : Bus) {stores : List (UInt16 × UInt8)} {c : Cell}
    (unreached : ∀ s ∈ stores, Cell.ofAddress? s.1.toNat ≠ some c) :
    (b.storeAll stores).get c = b.get c := by
  induction stores generalizing b with
  | nil => rfl
  | cons s rest ih =>
    rw [Bus.storeAll, ih _ (fun s' mem => unreached s' (List.mem_cons_of_mem _ mem)), Bus.get_poke,
      if_neg (unreached s List.mem_cons_self)]

@[simp] theorem Bus.storeAll_graphics (b : Bus) (stores : List (UInt16 × UInt8)) :
    (b.storeAll stores).graphics = b.graphics := by
  induction stores generalizing b with
  | nil => rfl
  | cons s rest ih => rw [Bus.storeAll, ih, Bus.poke_graphics]

/-! ## Footprints -/

/-- What an operation may change besides the program counter: some registers, some flags and
the bytes at some addresses. -/
structure Footprint where
  regs : List Register := []
  flags : List Flag := []
  stores : List UInt16 := []

/-- The page-one byte at `$0100 | x`. -/
def stackAt (x : UInt8) : UInt16 :=
  0x0100 ||| x.toUInt16

/-- The documented footprint of each operation, for the operand `target` its instruction
designates and the processor `cpu` it runs on. `ASL` writes back where it read, the accumulator
or one byte; `STA` one byte; the stack operations the stack pointer and the bytes they push,
from `$0100 | SP` downwards. -/
def Operation.footprint (op : Operation) (target : Operand) (cpu : Cpu) : Footprint :=
  let below (k : UInt8) := stackAt (cpu.sp - k)
  match op with
  | .load r _ | .transfer _ r | .increment r | .decrement r =>
    { regs := [r], flags := [.zero, .negative] }
  | .ora => { regs := [.a], flags := [.zero, .negative] }
  | .compare .. => { flags := [.carry, .zero, .negative] }
  | .bit => { flags := [.zero, .negative, .overflow] }
  | .asl =>
    match target with
    | .accumulator => { regs := [.a], flags := [.carry, .zero, .negative] }
    | _ => { flags := [.carry, .zero, .negative], stores := target.addresses }
  | .store _ => { stores := target.addresses }
  | .push _ => { regs := [.sp], stores := [below 0] }
  | .pull .accumulator => { regs := [.sp, .a], flags := [.zero, .negative] }
  | .pull .status => { regs := [.sp], flags := Flag.all }
  | .jsr => { regs := [.sp], stores := [below 0, below 1] }
  | .brk => { regs := [.sp], flags := [.brk, .interruptDisable], stores := [below 0, below 1, below 2] }
  | .rts => { regs := [.sp] }
  | .rti => { regs := [.sp], flags := Flag.all }
  | .setFlag f _ => { flags := [f] }
  | .branch .. | .jmp | .nop => {}

/-- An effect stays within `fp`: its registers agree with `cpu` outside `fp`, and it stores only
at addresses `fp` names. -/
structure Footprint.Covers (fp : Footprint) (cpu : Cpu) (eff : Effect) : Prop where
  cpu : Cpu.Agrees fp.regs fp.flags cpu eff.cpu
  stores : ∀ s ∈ eff.stores, s.1 ∈ fp.stores

/-- `after` differs from `before` at most in the program counter and within `fp`: every cell
that no address of `fp.stores` reaches keeps its byte, and graphics memory is untouched. -/
structure Footprint.Frames (fp : Footprint) (before after : Machine) : Prop where
  cpu : Cpu.Agrees fp.regs fp.flags before.cpu after.cpu
  cells : ∀ c : Cell, (∀ a ∈ fp.stores, Cell.ofAddress? a.toNat ≠ some c) →
    after.bus.get c = before.bus.get c
  graphics : after.bus.graphics = before.bus.graphics

/-- An effect that stores nothing covers what its registers cover. -/
theorem Footprint.Covers.registers {fp : Footprint} {cpu c : Cpu} (h : Cpu.Agrees fp.regs fp.flags cpu c) :
    fp.Covers cpu ⟨c, []⟩ :=
  ⟨h, fun _ mem => absurd mem List.not_mem_nil⟩

/-- Running an effect that `fp` covers, on a processor that agrees with `cpu` everywhere but the
program counter, frames the machine by `fp`. -/
theorem Footprint.Covers.frames {fp : Footprint} {cpu moved : Cpu} {bus : Bus} {eff : Effect}
    (covers : fp.Covers moved eff) (pcOnly : Cpu.Agrees [] [] cpu moved) :
    fp.Frames ⟨cpu, bus⟩ ⟨eff.cpu, bus.storeAll eff.stores⟩ := by
  refine ⟨(pcOnly.mono (List.nil_subset _) (List.nil_subset _)).trans covers.cpu, fun c unreached => ?_,
    Bus.storeAll_graphics _ _⟩
  exact bus.get_storeAll_of_unreached (fun s mem => unreached s.1 (covers.stores s mem))

/-! ## The stack operations -/

/-- `PHA` stores the accumulator at `$0100 | SP` and moves the stack pointer down. -/
theorem Operation.effect_pha (ins : Instruction) (cpu : Cpu) (bus : Bus) :
    (Operation.push .accumulator).effect ins cpu bus =
      .ok ⟨{ cpu with sp := cpu.sp - 1 }, [(stackAt cpu.sp, cpu.a)]⟩ :=
  rfl

/-- `PHP` stores the whole status byte at `$0100 | SP` and moves the stack pointer down. -/
theorem Operation.effect_php (ins : Instruction) (cpu : Cpu) (bus : Bus) :
    (Operation.push .status).effect ins cpu bus =
      .ok ⟨{ cpu with sp := cpu.sp - 1 }, [(stackAt cpu.sp, cpu.status.bits)]⟩ :=
  rfl

/-- `PLA` moves the stack pointer up and loads the byte it then points to. -/
theorem Operation.effect_pla (ins : Instruction) (cpu : Cpu) (bus : Bus) :
    (Operation.pull .accumulator).effect ins cpu bus =
      .ok ⟨({ cpu with sp := cpu.sp + 1 }).loadReg .a (bus.byteAt (stackAt (cpu.sp + 1)).toNat), []⟩ :=
  rfl

/-- `PLP` moves the stack pointer up and takes the byte it then points to as the status. -/
theorem Operation.effect_plp (ins : Instruction) (cpu : Cpu) (bus : Bus) :
    (Operation.pull .status).effect ins cpu bus =
      .ok ⟨{ cpu with
        sp := cpu.sp + 1
        status := ⟨bus.byteAt (stackAt (cpu.sp + 1)).toNat⟩ }, []⟩ :=
  rfl

/-- `JSR` pushes the address of its own last byte, high byte first, and jumps to its operand. -/
theorem Operation.effect_jsr (ins : Instruction) (cpu : Cpu) (bus : Bus) :
    Operation.jsr.effect ins cpu bus =
      .ok ⟨{ cpu with sp := cpu.sp - 1 - 1, pc := ins.word },
        [(stackAt cpu.sp, ((cpu.pc - 2) >>> 8).toUInt8), (stackAt (cpu.sp - 1), (cpu.pc - 2).toUInt8)]⟩ :=
  rfl

/-- `RTS` pulls a word, low byte first, and resumes two bytes past it. -/
theorem Operation.effect_rts (ins : Instruction) (cpu : Cpu) (bus : Bus) :
    Operation.rts.effect ins cpu bus =
      .ok ⟨{ cpu with
        sp := cpu.sp + 1 + 1
        pc := wordOf (bus.byteAt (stackAt (cpu.sp + 1)).toNat)
          (bus.byteAt (stackAt (cpu.sp + 1 + 1)).toNat) + 2 }, []⟩ :=
  rfl

/-- `BRK` pushes the program counter, high byte first, then the status byte as it was, sets
break and interrupt-disable and jumps through the vector at `$FFFE`. -/
theorem Operation.effect_brk (ins : Instruction) (cpu : Cpu) (bus : Bus) :
    Operation.brk.effect ins cpu bus =
      .ok ⟨{ (({ cpu with sp := cpu.sp - 1 - 1 - 1 } : Cpu).setFlag .brk true).setFlag .interruptDisable true
          with pc := bus.vectorAt breakVector.toNat },
        [(stackAt cpu.sp, (cpu.pc >>> 8).toUInt8), (stackAt (cpu.sp - 1), cpu.pc.toUInt8),
          (stackAt (cpu.sp - 1 - 1), cpu.status.bits)]⟩ :=
  rfl

/-- `RTI` pulls the status byte, then the program counter, low byte first. -/
theorem Operation.effect_rti (ins : Instruction) (cpu : Cpu) (bus : Bus) :
    Operation.rti.effect ins cpu bus =
      .ok ⟨{ cpu with
        sp := cpu.sp + 1 + 1 + 1
        status := ⟨bus.byteAt (stackAt (cpu.sp + 1)).toNat⟩
        pc := wordOf (bus.byteAt (stackAt (cpu.sp + 1 + 1)).toNat)
          (bus.byteAt (stackAt (cpu.sp + 1 + 1 + 1)).toNat) }, []⟩ :=
  rfl

theorem Cpu.Agrees.setSp (c : Cpu) (v : UInt8) : Cpu.Agrees [.sp] [] c { c with sp := v } :=
  Cpu.Agrees.setReg c .sp v

/-! ## Each operation within its footprint -/

theorem storeOperand_eq {cpu : Cpu} {o : Operand} {v : UInt8} {eff : Effect}
    (h : storeOperand cpu o v = .ok eff) :
    eff = match o with
      | .accumulator => ⟨{ cpu with a := v }, []⟩
      | .address a => ⟨cpu, [(a, v)]⟩
      | _ => ⟨cpu, []⟩ := by
  cases o with
  | address a =>
    obtain ⟨s, checked, rfl⟩ := Except.map_eq_ok h
    obtain ⟨-, rfl⟩ := (storeChecked_runs a v).of_ok checked
    rfl
  | accumulator | none | immediate _ => cases h; rfl

/-- A store writes one byte at its address, and nothing for an operand with no location. -/
theorem storeOperand_covers {cpu : Cpu} {o : Operand} {v : UInt8} {eff : Effect}
    (h : storeOperand cpu o v = .ok eff) (memory : o ≠ .accumulator) :
    ({ stores := o.addresses } : Footprint).Covers cpu eff := by
  rw [storeOperand_eq h]
  cases o with
  | accumulator => exact absurd rfl memory
  | address a => exact ⟨Cpu.Agrees.refl _ _ _, by simp [Operand.addresses]⟩
  | none | immediate _ => exact Footprint.Covers.registers (Cpu.Agrees.refl _ _ _)

theorem Instruction.operand_ne_accumulator {ins : Instruction} (cpu : Cpu) (bus : Bus)
    (mode : ins.mode ≠ .accumulator) : ins.operand cpu bus ≠ .accumulator := by
  unfold Instruction.operand
  split <;> simp_all

/-- The footprint of `ASL`, read off the operand it rewrites. -/
theorem asl_covers {cpu : Cpu} {o : Operand} {v : UInt8} {eff : Effect}
    (stored : storeOperand cpu o (v <<< 1) = .ok eff) :
    (Operation.asl.footprint o cpu).Covers cpu
      { eff with cpu := { eff.cpu with status :=
        (eff.cpu.status.set .carry (v &&& 0x80 != 0)).setZN (v <<< 1) } } := by
  -- the shift's flags come on top of whatever the store did to the registers
  have flags : ∀ c : Cpu, Cpu.Agrees [] [.carry, .zero, .negative] c
      { c with status := (c.status.set .carry (v &&& 0x80 != 0)).setZN (v <<< 1) } := fun c =>
    ((Cpu.Agrees.setFlag c .carry _).mono (List.Subset.refl _) (by simp)).trans
      ((Cpu.Agrees.setZN (c.setFlag .carry _) (v <<< 1)).mono (List.Subset.refl _) (by simp))
  rw [storeOperand_eq stored]
  cases o with
  | accumulator =>
    exact Footprint.Covers.registers
      (((Cpu.Agrees.setReg cpu .a (v <<< 1)).mono (List.Subset.refl _) (List.nil_subset _)).trans
        ((flags _).mono (List.nil_subset _) (List.Subset.refl _)))
  | address a =>
    exact ⟨(flags cpu).mono (List.nil_subset _) (List.Subset.refl _), by simp [Operation.footprint,
      Operand.addresses]⟩
  | none | immediate _ =>
    exact Footprint.Covers.registers ((flags cpu).mono (List.nil_subset _) (List.Subset.refl _))

/-- An operation that succeeds stays within its documented footprint, given that a store never
has the accumulator as its operand (no `STA` opcode is in accumulator mode). -/
theorem Operation.effect_covers {op : Operation} {ins : Instruction} {cpu : Cpu} {bus : Bus}
    {eff : Effect} (h : op.effect ins cpu bus = .ok eff)
    (storesToMemory : ∀ r, op = .store r → ins.mode ≠ .accumulator) :
    (op.footprint (ins.operand cpu bus) cpu).Covers cpu eff := by
  have loads : ∀ r v, ({ regs := [r], flags := [.zero, .negative] } : Footprint).Covers cpu
      ⟨cpu.loadReg r v, []⟩ := fun r v => Footprint.Covers.registers (Cpu.Agrees.loadReg cpu r v)
  cases op with
  | load r f =>
    obtain ⟨v, -, done⟩ := Except.bind_eq_ok h
    cases done; exact loads r v
  | transfer src dst => cases h; exact loads dst _
  | increment r => cases h; exact loads r _
  | decrement r => cases h; exact loads r _
  | ora =>
    obtain ⟨v, -, done⟩ := Except.bind_eq_ok h
    cases done; exact loads .a _
  | compare r f =>
    obtain ⟨v, -, done⟩ := Except.bind_eq_ok h
    cases done; exact Footprint.Covers.registers (Cpu.Agrees.compareWith cpu _ _)
  | bit =>
    obtain ⟨m, -, done⟩ := Except.bind_eq_ok h
    cases done
    show ({ flags := [.zero, .negative, .overflow] } : Footprint).Covers cpu _
    refine Footprint.Covers.registers ⟨fun r _ => by cases r <;> rfl, fun f hf => ?_, rfl⟩
    simp only [List.mem_cons, List.not_mem_nil, or_false, not_or] at hf
    simp only [Cpu.flag]
    rw [Status.get_set_of_ne _ _ (Ne.symm hf.2.2), Status.get_set_of_ne _ _ (Ne.symm hf.2.1),
      Status.get_set_of_ne _ _ (Ne.symm hf.1)]
  | store r =>
    obtain ⟨o, resolved, stored⟩ := Except.bind_eq_ok h
    obtain ⟨-, rfl⟩ := (resolve_runs cpu bus ins).of_ok resolved
    exact storeOperand_covers stored
      (Instruction.operand_ne_accumulator cpu bus (storesToMemory r rfl))
  | asl =>
    obtain ⟨o, resolved, h⟩ := Except.bind_eq_ok h
    obtain ⟨v, -, h⟩ := Except.bind_eq_ok h
    obtain ⟨stored, store, done⟩ := Except.bind_eq_ok h
    obtain ⟨-, rfl⟩ := (resolve_runs cpu bus ins).of_ok resolved
    cases done
    exact asl_covers store
  | push item =>
    have sp := Cpu.Agrees.setSp cpu (cpu.sp - 1)
    cases item
    · rw [Operation.effect_pha] at h
      cases h
      exact ⟨sp, by simp [Operation.footprint]⟩
    · rw [Operation.effect_php] at h
      cases h
      exact ⟨sp, by simp [Operation.footprint]⟩
  | pull item =>
    have sp := Cpu.Agrees.setSp cpu (cpu.sp + 1)
    cases item
    · rw [Operation.effect_pla] at h
      cases h
      exact Footprint.Covers.registers ((sp.mono (by simp [Operation.footprint]) (List.nil_subset _)).trans
        ((Cpu.Agrees.loadReg _ .a _).mono (by simp [Operation.footprint]) (List.Subset.refl _)))
    · rw [Operation.effect_plp] at h
      cases h
      exact Footprint.Covers.registers ((sp.mono (List.Subset.refl _) (List.nil_subset _)).trans
        ((Cpu.Agrees.setStatus _ _).mono (List.nil_subset _) (List.Subset.refl _)))
  | setFlag f v => cases h; exact Footprint.Covers.registers (Cpu.Agrees.setFlag cpu f v)
  | branch f v =>
    simp only [Operation.effect] at h
    split at h <;> cases h
    · exact Footprint.Covers.registers (Cpu.Agrees.setPc cpu _)
    · exact Footprint.Covers.registers (Cpu.Agrees.refl _ _ _)
  | brk =>
    rw [Operation.effect_brk] at h
    cases h
    -- three pushes, then the two flags, then the vector
    have sp := Cpu.Agrees.setSp cpu (cpu.sp - 1 - 1 - 1)
    have flags : ∀ c : Cpu, Cpu.Agrees [] [.brk, .interruptDisable] c
        ((c.setFlag .brk true).setFlag .interruptDisable true) := fun c =>
      ((Cpu.Agrees.setFlag c .brk true).mono (List.Subset.refl _) (by simp)).trans
        ((Cpu.Agrees.setFlag _ .interruptDisable true).mono (List.Subset.refl _) (by simp))
    refine ⟨((sp.mono (List.Subset.refl _) (List.nil_subset _)).trans
      ((flags _).mono (List.nil_subset _) (List.Subset.refl _))).trans
        ((Cpu.Agrees.setPc _ _).mono (List.nil_subset _) (List.nil_subset _)), ?_⟩
    have below : cpu.sp - 1 - 1 = cpu.sp - 2 := by grind
    simp [Operation.footprint, below]
  | jsr =>
    rw [Operation.effect_jsr] at h
    cases h
    have sp := Cpu.Agrees.setSp cpu (cpu.sp - 1 - 1)
    refine ⟨(sp.mono (List.Subset.refl _) (List.nil_subset _)).trans
      ((Cpu.Agrees.setPc _ _).mono (List.nil_subset _) (List.nil_subset _)), ?_⟩
    simp [Operation.footprint]
  | rts =>
    rw [Operation.effect_rts] at h
    cases h
    have sp := Cpu.Agrees.setSp cpu (cpu.sp + 1 + 1)
    exact Footprint.Covers.registers (sp.trans
      ((Cpu.Agrees.setPc _ _).mono (List.nil_subset _) (List.nil_subset _)))
  | rti =>
    rw [Operation.effect_rti] at h
    cases h
    -- the status byte, then the return address
    have sp := Cpu.Agrees.setSp cpu (cpu.sp + 1 + 1 + 1)
    have status := Cpu.Agrees.setStatus { cpu with sp := cpu.sp + 1 + 1 + 1 }
      ⟨bus.byteAt (stackAt (cpu.sp + 1)).toNat⟩
    exact Footprint.Covers.registers (((sp.mono (List.Subset.refl _) (List.nil_subset _)).trans
      (status.mono (List.nil_subset _) (List.Subset.refl _))).trans
        ((Cpu.Agrees.setPc _ _).mono (List.nil_subset _) (List.nil_subset _)))
  | jmp =>
    obtain ⟨o, -, h⟩ := Except.bind_eq_ok h
    split at h <;> cases h
    · exact Footprint.Covers.registers (Cpu.Agrees.setPc cpu _)
    · exact Footprint.Covers.registers (Cpu.Agrees.refl _ _ _)
  | nop => cases h; exact Footprint.Covers.registers (Cpu.Agrees.refl _ _ _)

/-! ## Steps and runs -/

/-- The footprint of the instruction at the program counter, as the bus holds it; an undefined
opcode's is empty. -/
def Machine.footprint (cpu : Cpu) (bus : Bus) : Footprint :=
  match (lookup (bus.byteAt cpu.pc.toNat)).operation with
  | some op =>
    op.footprint ((Machine.fetched bus cpu.pc).operand (Machine.movedPast cpu bus) bus)
      (Machine.movedPast cpu bus)
  | none => {}

/-- The table's stores, `STA` in its three modes, always name a memory operand. -/
theorem lookup_store_mode :
    ∀ n < 256, ∀ r ∈ [Register.a, .x, .y, .sp],
      (lookup (UInt8.ofNat n)).operation = some (.store r) → Mode.nominal (UInt8.ofNat n) ≠ .accumulator := by
  decide +kernel

theorem mode_ne_accumulator_of_store {o : UInt8} {r : Register} (store : (lookup o).operation = some (.store r)) :
    Mode.nominal o ≠ .accumulator := by
  have table := lookup_store_mode o.toNat o.toNat_lt r (by cases r <;> simp)
  rw [UInt8.ofNat_toNat] at table
  exact table store

/-- Moving past the instruction changes only the program counter. -/
theorem Machine.movedPast_agrees (cpu : Cpu) (bus : Bus) : Cpu.Agrees [] [] cpu (Machine.movedPast cpu bus) :=
  Cpu.Agrees.setPc cpu _

/-- A running step that succeeds changes nothing outside the footprint of its opcode but the
program counter: no other register or flag, no memory cell that none of the footprint's
addresses reaches, and not graphics memory. -/
theorem Machine.execute_frames {cpu : Cpu} {bus : Bus} (running : cpu.phase = .running) {n : Nat}
    (ok : (Machine.execute ⟨cpu, bus⟩).2 = .ok n) :
    (Machine.footprint cpu bus).Frames ⟨cpu, bus⟩ (Machine.execute ⟨cpu, bus⟩).1 := by
  rcases Machine.execute_cases bus running with ⟨g, -, step⟩ | ⟨-, ⟨undefined, step⟩ | ⟨op, defined, ran⟩⟩
  · rw [step] at ok; cases ok
  · -- an undefined opcode only moves the program counter
    rw [step]
    simp only [Machine.footprint, undefined]
    exact ⟨Machine.movedPast_agrees cpu bus, fun _ _ => rfl, rfl⟩
  · rcases ran with ⟨e, -, step⟩ | ⟨eff, effect, step⟩
    · rw [step] at ok; cases ok
    · rw [step]
      simp only [Machine.footprint, defined]
      have memory : ∀ r, op = .store r → (Machine.fetched bus cpu.pc).mode ≠ .accumulator := by
        rintro r rfl
        exact mode_ne_accumulator_of_store defined
      exact (Operation.effect_covers effect memory).frames (Machine.movedPast_agrees cpu bus)

/-- No step, whatever its outcome, changes graphics memory. -/
theorem Machine.execute_graphics (m : Machine) : m.execute.1.bus.graphics = m.bus.graphics := by
  obtain ⟨cpu, bus⟩ := m
  cases phase : cpu.phase with
  | reset => rw [Machine.execute_of_reset phase]
  | running =>
    rcases Machine.execute_cases bus phase with ⟨g, -, step⟩ | ⟨-, ⟨-, step⟩ | ⟨op, -, ⟨e, -, step⟩ | ⟨eff, -, step⟩⟩⟩
    all_goals rw [step]
    exact Bus.storeAll_graphics _ _

/-- No run of instructions, of any length, changes graphics memory. -/
theorem Machine.steps_graphics (m : Machine) (k : Nat) : (m.steps k).1.bus.graphics = m.bus.graphics := by
  -- the run is `steps.go` from zero counts, and each step keeps graphics memory
  suffices run : ∀ (m : Machine) (executed cycles : Nat),
      (Machine.steps.go m k executed cycles).1.bus.graphics = m.bus.graphics from run m 0 0
  induction k with
  | zero => intro m _ _; rfl
  | succ k ih =>
    intro m executed cycles
    rw [← Machine.execute_graphics m]
    rcases step : m.execute with ⟨m', _ | c⟩
    · simp [Machine.steps.go, step]
    · simp [Machine.steps.go, step, ih]

/-- A running step that succeeds changes nothing outside its opcode's documented footprint,
apart from the program counter: a load or transfer only its register with zero and negative,
`TXS` the stack pointer with zero and negative, a compare carry, zero and negative, `BIT` zero,
negative and overflow, `ASL` carry, zero, negative and the accumulator or the one byte it
shifts, `STA` the one byte at its effective address, the stack instructions the stack pointer,
the bytes they push from `$0100 | SP` downwards, and `PLP`/`RTI` the status byte, `BRK` break
and interrupt-disable, a flag instruction its flag, and a branch, `JMP`, `NOP` or undefined
opcode nothing at all. Over every run of any length, graphics memory never changes. -/
theorem Machine.execute_footprint {cpu : Cpu} {bus : Bus} (running : cpu.phase = .running) {n : Nat}
    (ok : (Machine.execute ⟨cpu, bus⟩).2 = .ok n) :
    (Machine.footprint cpu bus).Frames ⟨cpu, bus⟩ (Machine.execute ⟨cpu, bus⟩).1 ∧
    ∀ (m : Machine) (k : Nat), (m.steps k).1.bus.graphics = m.bus.graphics :=
  ⟨Machine.execute_frames running ok, Machine.steps_graphics⟩

/-- A `BRK` fetched from cleared RAM after a reset to `$0000` stays within its footprint. -/
theorem brk_from_cleared_ram_within_footprint :
    (Cpu.afterReset 0).phase = .running ∧ (Machine.execute ⟨Cpu.afterReset 0, Bus.empty⟩).2 = .ok 7 ∧
    (Machine.footprint (Cpu.afterReset 0) Bus.empty).Frames ⟨Cpu.afterReset 0, Bus.empty⟩
      (Machine.execute ⟨Cpu.afterReset 0, Bus.empty⟩).1 := by
  have ran : (Machine.execute ⟨Cpu.afterReset 0, Bus.empty⟩).2 = .ok 7 := by decide
  exact ⟨rfl, ran, (Machine.execute_footprint rfl ran).1⟩

end NesMachine
