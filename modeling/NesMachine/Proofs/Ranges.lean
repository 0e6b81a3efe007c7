import Mathlib.Logic.Relation
import NesMachine.Proofs.DataOperations
import NesMachine.Proofs.ImageLayout
import NesMachine.Proofs.ResetPhase
/-!
# Every index and counter stays in range

The devices behind the bus index their storage by an address's distance from the start of their
window, and none of them checks it: a read trusts that the whole access lies in the region of its
first address, a write that each piece the bus hands it lies in one region, the graphics upload
that its run fits, the parser that the image holds the header and each section, and the two run
loops that their counters do not overflow. Each of these is guaranteed by a check made earlier, by
a caller:

* `Bus.readCheck_region`: a read that passes its check stays below `$10000` and every address it
  touches lies in the region of the first;
* `Bus.writePlan_fits`: every piece of a write that passes its plan lies in its region and in the
  data (`Segment.Fits`);
* `Bus.writeGraphics_lands`: an accepted upload stores every byte at its position, none falling
  off the end of graphics memory;
* `Cartridge.ofInes_within`: a cartridge read from an image took its header and each section
  whole from within the image (`Cartridge.ReadWithin`);
* `Machine.execute_cycles_le`: no instruction costs more than 7 cycles, so a run of `n`
  instructions counts at most `7 n` (`Console.run_total_le`) and the frame counter, counted down
  from at most `2^31 - 1` while positive, never falls below `-6` (`Console.frameCounter_range`).
-/

namespace NesMachine

/-! ## Reads -/

/-- A read that passes its check stays below `$10000`, and every address it touches lies in the
region of its first address. -/
theorem Bus.readCheck_region {addr : UInt16} {width : Nat} (passed : Bus.readCheck addr width = none) :
    addr.toNat + width ≤ 0x10000 ∧ ∃ r, Region.ofAddress? addr.toNat = some r ∧
      ∀ i < width, Region.ofAddress? (addr.toNat + i) = some r := by
  obtain ⟨r, found, fits⟩ := readCheck_eq_none_iff.1 passed
  have below := Region.last_lt r
  have within := Region.le_last_of_ofAddress? found
  simp only [Region.room] at fits
  exact ⟨by omega, r, found, fun i lt => Region.ofAddress?_of_le_last found (by omega) (by omega)⟩

/-! ## Writes -/

/-- A piece of a write of `len` bytes fits where it lands: its first address lies in its region,
it is not empty, it ends by the region's last address, and its share of the data exists. -/
structure Segment.Fits (s : Segment) (len : Nat) : Prop where
  region : Region.ofAddress? s.addr = some s.region
  nonempty : 0 < s.len
  toEnd : s.addr + s.len ≤ s.region.last + 1
  data : s.offset + s.len ≤ len

/-- Every piece the split cuts fits, the data still to place being what lies between the cursor
and the end. -/
theorem splitFrom_fits {cursor stop offset : Nat} :
    ∀ {segs : List Segment}, splitFrom cursor stop offset = .ok segs →
      ∀ s ∈ segs, s.Fits (offset + (stop - cursor)) := by
  fun_induction splitFrom cursor stop offset with
  | case1 => intro segs h; cases h
  | case2 cursor offset lt r found take =>
    rename_i ih
    intro segs h s mem
    obtain ⟨rest, split, rfl⟩ := Except.map_eq_ok h
    have cut : take = min (r.last + 1 - cursor) (stop - cursor) := rfl
    have within := Region.le_last_of_ofAddress? found
    rcases List.mem_cons.1 mem with rfl | later
    · exact ⟨found, show 0 < take by omega, show cursor + take ≤ r.last + 1 by omega,
        show offset + take ≤ offset + (stop - cursor) by omega⟩
    · -- the rest of the split places the rest of the data
      have rest : offset + take + (stop - (cursor + take)) = offset + (stop - cursor) := by omega
      exact rest ▸ ih split s later
  | case3 => intro segs h s mem; cases h; cases mem

/-- Every piece of a write that passes its plan fits in its region and in the data. -/
theorem Bus.writePlan_fits {addr : UInt16} {len : Nat} {segs : List Segment}
    (planned : Bus.writePlan addr len = .ok segs) : ∀ s ∈ segs, s.Fits len := by
  unfold Bus.writePlan at planned
  split_ifs at planned
  split at planned
  · cases planned
  · cases planned
    rename_i split
    have whole : 0 + (addr.toNat + len - addr.toNat) = len := by omega
    exact whole ▸ splitFrom_fits split

/-! ## Graphics uploads -/

/-- An accepted upload stores every byte of its run at its position from `offset`: none falls off
the end of graphics memory. -/
theorem Bus.writeGraphics_lands {b b' : Bus} {offset : Nat} {data : List UInt8}
    (uploaded : b.writeGraphics offset data = .ok b') :
    ∀ j (lt : j < data.length), b'.graphics[offset + j]? = some data[j] := by
  intro j lt
  unfold Bus.writeGraphics at uploaded
  split_ifs at uploaded with refused
  cases uploaded
  -- the check just passed is what keeps the run inside graphics memory
  have fits : offset + data.length ≤ graphicsSize := by
    simp only [Bool.or_eq_true, decide_eq_true_eq, not_or] at refused
    omega
  have inside : offset + j < 0x4000 := by simp only [graphicsSize] at fits; omega
  rw [Vector.getElem?_eq_getElem inside, Bus.getElem_upload _ _ _ inside, if_pos (Nat.le_add_right _ _),
    Nat.add_sub_cancel_left, List.getElem?_eq_getElem lt]
  rfl

/-! ## Reading an image -/

/-- A section cut from an image lies within it and is as long as asked. -/
theorem Cartridge.take_within {data s : ByteArray} {offset len : Nat} {part : Section}
    (taken : Cartridge.take data offset len part = .ok s) : offset + len ≤ data.size ∧ s.size = len := by
  rw [Cartridge.take_eq] at taken
  split_ifs at taken with short
  cases taken
  exact ⟨by omega, by simp only [ByteArray.size_extract]; omega⟩

/-- A cartridge read from `data` took its header from the image's first 16 bytes and each section
whole from within the image: the program and character ROM are as long as the header says, and
they end, after the trainer when one is flagged, within the image. -/
structure Cartridge.ReadWithin (c : Cartridge) (data : ByteArray) : Prop where
  header : 16 ≤ data.size
  prg : c.prg.size = c.header.prgLen
  chr : c.chr.size = c.header.chrLen
  sections : 16 + (if c.header.hasTrainer then 512 else 0) + c.header.prgLen + c.header.chrLen ≤
    data.size

/-- The program and character ROM cut at `offset` for a header `h` are as long as `h` says and end
within the image. -/
theorem Cartridge.sections_within {data : ByteArray} {h : Header} {offset : Nat} {c : Cartridge}
    (read : (do
      let prg ← Cartridge.take data offset h.prgLen .prgRom
      let chr ← Cartridge.take data (offset + h.prgLen) h.chrLen .chrRom
      pure ⟨h, prg, chr⟩ : Except CartridgeError Cartridge) = .ok c) :
    c.header = h ∧ c.prg.size = h.prgLen ∧ c.chr.size = h.chrLen ∧
      offset + h.prgLen + h.chrLen ≤ data.size := by
  obtain ⟨prg, takenPrg, read⟩ := Except.bind_eq_ok read
  obtain ⟨chr, takenChr, read⟩ := Except.bind_eq_ok read
  cases read
  obtain ⟨-, prgSize⟩ := Cartridge.take_within takenPrg
  obtain ⟨chrEnd, chrSize⟩ := Cartridge.take_within takenChr
  exact ⟨rfl, prgSize, chrSize, by omega⟩

theorem Cartridge.ofInes_within {data : ByteArray} {c : Cartridge} (read : Cartridge.ofInes data = .ok c) :
    c.ReadWithin data := by
  unfold Cartridge.ofInes at read
  obtain ⟨h, parsed, read⟩ := Except.bind_eq_ok read
  have long : 16 ≤ data.size := by
    rw [Header.parse_eq] at parsed
    split_ifs at parsed with short
    omega
  -- the sections are cut past the header, and past the trainer when one is flagged
  change (if h.hasTrainer = true then _ else _) = _ at read
  split at read
  · rename_i flagged
    obtain ⟨-, -, read⟩ := Except.bind_eq_ok read
    rw [pure_bind] at read
    beta_reduce at read
    obtain ⟨rfl, prg, chr, within⟩ := Cartridge.sections_within read
    exact ⟨long, prg, chr, by simpa [flagged, headerLen, trainerLen] using within⟩
  · rename_i unflagged
    rw [pure_bind] at read
    beta_reduce at read
    obtain ⟨rfl, prg, chr, within⟩ := Cartridge.sections_within read
    exact ⟨long, prg, chr, by simpa [unflagged, headerLen] using within⟩

/-! ## Cycle counts -/

/-- No opcode costs more than 7 cycles. -/
theorem lookup_cycles_le (o : UInt8) : (lookup o).cycles ≤ 7 := by
  apply UInt8.of_table _ o
  decide +kernel

/-- An instruction that runs costs at most 7 cycles. -/
theorem Machine.execute_cycles_le (m : Machine) {cycles : Nat} (ran : m.execute.2 = .ok cycles) :
    cycles ≤ 7 := by
  obtain ⟨cpu, bus⟩ := m
  cases phase : cpu.phase with
  | reset => rw [Machine.execute_of_reset phase] at ran; cases ran
  | running =>
    have costly := lookup_cycles_le (bus.byteAt cpu.pc.toNat)
    -- a step answers its opcode's cost, or 0 when the opcode is undefined
    rcases Machine.execute_cases bus phase with
      ⟨g, -, step⟩ | ⟨-, ⟨-, step⟩ | ⟨op, -, ⟨e, -, step⟩ | ⟨eff, -, step⟩⟩⟩ <;>
      rw [step] at ran <;> cases ran
    · omega
    · exact costly

theorem Console.execute_cycles_le {c c' : Console} {cycles : Nat} (ran : c.execute = (c', .ok cycles)) :
    cycles ≤ 7 :=
  Machine.execute_cycles_le c.machine (congrArg Prod.snd ran)

/-- A run of `n` instructions adds at most `7 n` cycles to the total it starts from. -/
theorem Console.runFrom_total_le (c : Console) (n total : Nat) {t : Nat}
    (ran : (c.runFrom n total).2 = .ok t) : t ≤ total + 7 * n := by
  fun_induction Console.runFrom c n total with
  | case1 c total => cases ran; omega
  | case2 c n total c' cycles step ih =>
    have cost := Console.execute_cycles_le step
    have rest := ih ran
    omega
  | case3 c n total c' e step => cases ran

/-- A run of `n` instructions counts at most `7 n` cycles. -/
theorem Console.run_total_le (c : Console) (n : Nat) {t : Nat} (ran : (c.run n).2 = .ok t) :
    t ≤ 7 * n := by
  have bound := Console.runFrom_total_le c.reset n 0 ran
  omega

/-! ## The frame counter -/

/-- One turn of the frame loop, as its counter sees it: with fuel and budget left an instruction
runs, and the loop goes on with one unit of fuel less and the instruction's cycles taken off the
budget. -/
inductive Console.FrameTurn : Console × Nat × Int → Console × Nat × Int → Prop
  | turn {c c' : Console} {fuel : Nat} {left : Int} {cycles : Nat} (positive : 0 < left)
      (ran : c.execute = (c', .ok cycles)) : FrameTurn (c, fuel + 1, left) (c', fuel, left - cycles)

/-- A turn is the frame loop's own recursion: the loop at the start of a turn goes on as the loop
at its end. -/
theorem Console.frameLoop_turn {a b : Console × Nat × Int} (turn : Console.FrameTurn a b)
    (consumed : Nat) :
    ∃ consumed', a.1.frameLoop a.2.1 a.2.2 consumed = b.1.frameLoop b.2.1 b.2.2 consumed' := by
  cases turn with
  | turn positive ran => exact ⟨_, by rw [Console.frameLoop, if_pos positive, ran]⟩

/-- Counted down from at most `2^31 - 1` and only while positive, by at most 7 a turn, the frame
counter never leaves `[-6, 2^31 - 1]`. -/
theorem Console.frameCounter_range (c : Console) {s : Console × Nat × Int}
    (reach : Relation.ReflTransGen Console.FrameTurn
      (c, c.cyclesPerFrame, ((min c.cyclesPerFrame frameBudgetLimit : Nat) : Int)) s) :
    -6 ≤ s.2.2 ∧ s.2.2 ≤ frameBudgetLimit := by
  induction reach with
  | refl => simp only [frameBudgetLimit]; omega
  | tail _ turn ih =>
    cases turn with
    | turn positive ran =>
      have cost := Console.execute_cycles_le ran
      simp only at ih ⊢
      omega

/-! ## Every check a guarded access rests on -/

/-- Every index and counter the machine computes stays in range, each by a check made before it:
a read that passes its check touches only addresses below `$10000` in the region of its first;
every piece of a planned write lies in one region and in the data; an accepted upload stores
every byte inside graphics memory; an instruction takes one to three bytes; a cartridge read from
an image took its header and sections from within it; a run of at most `2^61` instructions counts
fewer than `2^64` cycles; and through every turn of the frame loop, each turn being the loop's own
recursion, the frame counter stays in the 32-bit signed range. -/
theorem indices_and_counters_in_range :
    (∀ (addr : UInt16) (width : Nat), Bus.readCheck addr width = none →
      addr.toNat + width ≤ 0x10000 ∧ ∃ r, Region.ofAddress? addr.toNat = some r ∧
        ∀ i < width, Region.ofAddress? (addr.toNat + i) = some r) ∧
    (∀ (addr : UInt16) (len : Nat) (segs : List Segment), Bus.writePlan addr len = .ok segs →
      ∀ s ∈ segs, s.Fits len) ∧
    (∀ (b b' : Bus) (offset : Nat) (data : List UInt8), b.writeGraphics offset data = .ok b' →
      ∀ j (lt : j < data.length), b'.graphics[offset + j]? = some data[j]) ∧
    (∀ opcode : UInt8, 1 ≤ (lookup opcode).size ∧ (lookup opcode).size ≤ 3) ∧
    (∀ (data : ByteArray) (c : Cartridge), Cartridge.ofInes data = .ok c → c.ReadWithin data) ∧
    (∀ (c : Console) (n total : Nat), n ≤ 2 ^ 61 → (c.run n).2 = .ok total → total < 2 ^ 64) ∧
    (∀ a b : Console × Nat × Int, Console.FrameTurn a b → ∀ consumed, ∃ consumed',
      a.1.frameLoop a.2.1 a.2.2 consumed = b.1.frameLoop b.2.1 b.2.2 consumed') ∧
    (∀ (c : Console) (s : Console × Nat × Int), Relation.ReflTransGen Console.FrameTurn
      (c, c.cyclesPerFrame, ((min c.cyclesPerFrame frameBudgetLimit : Nat) : Int)) s →
        -2 ^ 31 ≤ s.2.2 ∧ s.2.2 < 2 ^ 31) := by
  refine ⟨fun _ _ passed => Bus.readCheck_region passed, fun _ _ _ planned => Bus.writePlan_fits planned,
    fun _ _ _ _ uploaded => Bus.writeGraphics_lands uploaded, fun opcode => ?_,
    fun _ _ read => Cartridge.ofInes_within read, fun c n total few ran => ?_,
    fun _ _ turn => Console.frameLoop_turn turn, fun c s reach => ?_⟩
  · -- an opcode is followed by at most two operand bytes
    rcases Mode.size_cases (lookup opcode).mode with size | size | size <;>
      simp [Opcode.size, size]
  · have bound := Console.run_total_le c n ran
    omega
  · have range := Console.frameCounter_range c reach
    simp only [frameBudgetLimit] at range
    omega

end NesMachine
