import NesMachine.Proofs.Install
import NesMachine.Proofs.StackRoundTrip
import NesMachine.Console
import NesMachine.Cartridge.Builder
/-!
# NROM images round trip

`buildNrom prg chrUnits (some r)` builds a one-unit image: the header, the program unit
`nromBank prg r` (the program, `$AA` filler, and the three vectors all at `r`), and
`chrUnits` character units of `$CC`. Inserting it into a fresh console reads it back, installs it
and waits for a reset, which then starts at `r`:

* `buildNrom_toList`: the bytes of the image;
* `Cartridge.ofInes_of_toList`: an image without a trainer reads back as its sections;
* `Console.insert_buildNrom`: what insertion returns;
* `Console.nrom_reset_state`: the console after the reset.

The header keeps the character unit count modulo 256 (`Nat.toUInt8`), so the cartridge read
back has `chrUnits % 256` units, and the insertion is refused exactly when that exceeds two.
-/

/-! ## Byte arrays as lists -/

namespace ByteArray

theorem toList_mk (xs : Array UInt8) : (ByteArray.mk xs).toList = xs.toList := by
  rw [toList_eq_data_toList]

@[simp] theorem toList_push (b : ByteArray) (v : UInt8) : (b.push v).toList = b.toList ++ [v] := by
  cases b
  rw [toList_eq_data_toList, toList_eq_data_toList]
  exact Array.toList_push

@[simp] theorem toList_set! (b : ByteArray) (i : Nat) (v : UInt8) :
    (b.set! i v).toList = b.toList.set i v := by
  cases b
  rw [toList_eq_data_toList, toList_eq_data_toList]
  exact Array.toList_set!

@[simp] theorem toList_copySlice (src : ByteArray) (srcOff : Nat) (dest : ByteArray) (destOff len : Nat)
    (exact : Bool) :
    (src.copySlice srcOff dest destOff len exact).toList =
      dest.toList.take destOff ++ (src.toList.drop srcOff).take len ++
        dest.toList.drop (destOff + min len (src.size - srcOff)) := by
  simp only [toList_eq_data_toList, copySlice, Array.toList_append, Array.toList_extract, List.extract,
    size_data, Nat.sub_zero, List.drop_zero, Nat.add_sub_cancel_left]
  congr 1
  exact List.take_of_length_le (by simp [size_data])

@[simp] theorem toList_extract (b : ByteArray) (i j : Nat) :
    (b.extract i j).toList = (b.toList.drop i).take (j - i) := by
  simp [toList_eq_data_toList, data_extract, List.extract]

end ByteArray

namespace NesMachine

/-! ## The image `buildNrom` builds -/

theorem appendFill_toList (b : ByteArray) (v : UInt8) (n : Nat) :
    (appendFill b v n).toList = b.toList ++ List.replicate n v := by
  induction n generalizing b with
  | zero => simp [appendFill]
  | succ n ih => rw [appendFill, ih, ByteArray.toList_push, List.append_assoc, List.singleton_append,
      List.replicate_succ]

/-- The sixteen header bytes `buildInes` writes: the magic, the two unit counts modulo 256, the
two flag bytes and eight zeros. -/
def inesHeader (p c : Nat) (f6 f7 : UInt8) : List UInt8 :=
  [0x4E, 0x45, 0x53, 0x1A, p.toUInt8, c.toUInt8, f6, f7, 0, 0, 0, 0, 0, 0, 0, 0]

@[simp] theorem inesHeader_length (p c : Nat) (f6 f7 : UInt8) :
    (inesHeader p c f6 f7).length = headerLen := rfl

/-- An image built without a trainer: the header, then the program and character units filled
with `$AA` and `$CC`. -/
theorem buildInes_toList (p c : Nat) (f6 f7 : UInt8) :
    (buildInes p c f6 f7 none).toList =
      inesHeader p c f6 f7 ++ List.replicate (p * prgUnit) 0xAA ++ List.replicate (c * chrUnit) 0xCC := by
  simp only [buildInes, appendFill_toList, ByteArray.toList_mk]
  rfl

theorem setWordAt_toList (b : ByteArray) (i : Nat) (w : UInt16) :
    (setWordAt b i w).toList = (b.toList.set i w.toUInt8).set (i + 1) (w >>> 8).toUInt8 := by
  simp [setWordAt]

@[simp] theorem size_setWordAt (b : ByteArray) (i : Nat) (w : UInt16) : (setWordAt b i w).size = b.size := by
  rw [← ByteArray.length_toList, ← ByteArray.length_toList, setWordAt_toList, List.length_set, List.length_set]

/-- The program unit before its vectors are written: the program, then filler. -/
theorem nromProgram_toList (prg : ByteArray) (c : Nat) :
    (prg.copySlice 0 ((buildInes 1 c 0 0 none).extract headerLen (headerLen + prgUnit)) 0 prg.size).toList =
      prg.toList ++ List.replicate (prgUnit - prg.size) 0xAA := by
  have filler : ((buildInes 1 c 0 0 none).extract headerLen (headerLen + prgUnit)).toList =
      List.replicate prgUnit 0xAA := by
    rw [ByteArray.toList_extract, buildInes_toList, List.append_assoc,
      List.drop_left' (inesHeader_length 1 c 0 0), Nat.add_sub_cancel_left, Nat.one_mul,
      List.take_left' List.length_replicate]
  rw [ByteArray.toList_copySlice, filler, List.take_zero, List.drop_zero,
    List.take_of_length_le (ByteArray.length_toList prg).le, Nat.sub_zero, Nat.min_self, Nat.zero_add,
    List.drop_replicate, List.nil_append]

/-- A one-unit program block takes its vectors in its last six bytes. -/
theorem setVectors_of_unit {bank : ByteArray} (unit : bank.size = prgUnit) (reset nmi irq : UInt16) :
    setVectors bank reset nmi irq =
      .ok (setWordAt (setWordAt (setWordAt bank 16378 nmi) 16380 reset) 16382 irq) := by
  unfold setVectors
  rw [if_pos (Or.inl unit), unit]
  rfl

/-- Byte `i` of the program unit of an NROM image built from `prg` with all three vectors at `r`:
the program, then `$AA` filler, and in the last six bytes `r` little-endian three times (the NMI,
reset and IRQ vectors), over whatever the program put there. -/
def nromBank (prg : ByteArray) (r : UInt16) (i : Nat) : UInt8 :=
  if i < prgUnit - 6 then prg[i]?.getD 0xAA
  else if i % 2 = 0 then r.toUInt8 else (r >>> 8).toUInt8

/-- Writing the three vectors into the filled program unit gives `nromBank`. -/
theorem nromBank_toList {prg bank : ByteArray} (r : UInt16) (fits : prg.size ≤ prgUnit)
    (filled : bank.toList = prg.toList ++ List.replicate (prgUnit - prg.size) 0xAA) :
    (setWordAt (setWordAt (setWordAt bank 16378 r) 16380 r) 16382 r).toList =
      List.ofFn fun i : Fin prgUnit => nromBank prg r i := by
  simp only [setWordAt_toList, filled]
  apply List.ext_getElem
  · simp; omega
  intro i inBank _
  simp only [List.getElem_set, List.getElem_ofFn]
  unfold nromBank
  by_cases low : i < prgUnit - 6
  · -- below the vectors: the program, then filler
    have : i < 16378 := low
    simp only [if_neg (show (16383 : Nat) ≠ i by omega), if_neg (show (16382 : Nat) ≠ i by omega),
      if_neg (show (16381 : Nat) ≠ i by omega), if_neg (show (16380 : Nat) ≠ i by omega),
      if_neg (show (16379 : Nat) ≠ i by omega), if_neg (show (16378 : Nat) ≠ i by omega), if_pos low,
      ← ByteArray.getElem?_toList]
    rw [List.getElem_append]
    split_ifs with inPrg
    · rw [List.getElem?_eq_getElem inPrg]
      rfl
    · rw [List.getElem?_eq_none (by omega)]
      simp
  · have : i = 16378 ∨ i = 16379 ∨ i = 16380 ∨ i = 16381 ∨ i = 16382 ∨ i = 16383 := by
      simp only [List.length_set, List.length_append, ByteArray.length_toList, List.length_replicate] at inBank
      unfold prgUnit at low fits inBank; omega
    rcases this with rfl | rfl | rfl | rfl | rfl | rfl <;> simp [prgUnit]

/-- `buildNrom` accepts every program of at most one unit. Its image is the header (one program
unit, the character unit count modulo 256), the program unit `nromBank prg r`, and `chrUnits`
units of `$CC`. -/
theorem buildNrom_toList (prg : ByteArray) (c : Nat) (r : UInt16) (fits : prg.size ≤ prgUnit) :
    ∃ image, buildNrom prg c (some r) = .ok image ∧
      image.toList = inesHeader 1 c 0 0 ++ List.ofFn (fun i : Fin prgUnit => nromBank prg r i) ++
        List.replicate (c * chrUnit) 0xCC := by
  have filled := nromProgram_toList prg c
  have unit : (prg.copySlice 0 ((buildInes 1 c 0 0 none).extract headerLen (headerLen + prgUnit)) 0
      prg.size).size = prgUnit := by
    rw [← ByteArray.length_toList, filled]
    simp only [List.length_append, ByteArray.length_toList, List.length_replicate]
    omega
  unfold buildNrom
  simp only [gt_iff_lt, Nat.not_lt.2 fits, if_false, Option.getD_some]
  rw [setVectors_of_unit unit]
  refine ⟨_, rfl, ?_⟩
  -- the vectored unit is copied over the image's own, between the header and the character units
  rw [ByteArray.toList_copySlice, nromBank_toList r fits filled, size_setWordAt, size_setWordAt,
    size_setWordAt, unit, buildInes_toList, List.append_assoc (inesHeader 1 c 0 0),
    List.take_left' (inesHeader_length 1 c 0 0),
    List.drop_zero, List.take_of_length_le (by simp), Nat.sub_zero, Nat.min_self, ← List.drop_drop,
    List.drop_left' (inesHeader_length 1 c 0 0), Nat.one_mul, List.drop_left' List.length_replicate,
    List.append_assoc]

/-! ## Reading an image back -/

theorem Header.parse_of_toList {data : ByteArray} {p q f6 f7 : UInt8} {pad body : List UInt8}
    (padLen : pad.length = 8) (bytes : data.toList = [0x4E, 0x45, 0x53, 0x1A, p, q, f6, f7] ++ pad ++ body) :
    Header.parse data = .ok ⟨p, q, f6, f7⟩ := by
  have long : ¬ data.size < headerLen := by
    rw [← ByteArray.length_toList, bytes]
    simp [headerLen, padLen]
  unfold Header.parse
  rw [if_neg long]
  simp only [← ByteArray.getElem?_toList, bytes]
  rfl

theorem Cartridge.take_of_le (data : ByteArray) (offset len : Nat) (part : Section)
    (within : offset + len ≤ data.size) :
    Cartridge.take data offset len part = .ok (data.extract offset (offset + len)) :=
  if_pos within

theorem Cartridge.ofInes_of_toList {data : ByteArray} {p q f6 f7 : UInt8} {pad body : List UInt8}
    (padLen : pad.length = 8) (bytes : data.toList = [0x4E, 0x45, 0x53, 0x1A, p, q, f6, f7] ++ pad ++ body)
    (noTrainer : f6 &&& 0x04 = 0) (long : p.toNat * prgUnit + q.toNat * chrUnit ≤ body.length) :
    ∃ prg chr : ByteArray, Cartridge.ofInes data = .ok ⟨⟨p, q, f6, f7⟩, prg, chr⟩ ∧
      prg.toList = body.take (p.toNat * prgUnit) ∧
      chr.toList = (body.drop (p.toNat * prgUnit)).take (q.toNat * chrUnit) := by
  have size : data.size = headerLen + body.length := by
    rw [← ByteArray.length_toList, bytes]
    simp only [List.length_append, List.length_cons, List.length_nil, padLen, headerLen]
  have afterHeader : data.toList.drop headerLen = body := by
    rw [bytes, List.drop_left' (by simp [headerLen, padLen])]
  have noTrainer' : (⟨p, q, f6, f7⟩ : Header).hasTrainer = false := by
    simp [Header.hasTrainer, noTrainer]
  have prgTaken := Cartridge.take_of_le data headerLen (p.toNat * prgUnit) .prgRom (by omega)
  have chrTaken := Cartridge.take_of_le data (headerLen + p.toNat * prgUnit) (q.toNat * chrUnit) .chrRom
    (by omega)
  refine ⟨data.extract headerLen (headerLen + p.toNat * prgUnit),
    data.extract (headerLen + p.toNat * prgUnit) (headerLen + p.toNat * prgUnit + q.toNat * chrUnit), ?_, ?_, ?_⟩
  · simp only [Cartridge.ofInes, Header.parse_of_toList padLen bytes, bind, Except.bind, noTrainer',
      Bool.false_eq_true, if_false, pure, Except.pure, Header.prgLen, Header.chrLen, prgTaken, chrTaken]
  · rw [ByteArray.toList_extract, afterHeader, Nat.add_sub_cancel_left]
  · rw [ByteArray.toList_extract, ← List.drop_drop, afterHeader, Nat.add_sub_cancel_left]

/-! ## Inserting it and resetting -/

/-- Byte `i` of an installed NROM program unit shows at `$8000 + i` and again at `$C000 + i`. -/
theorem prgByteAt?_nrom {prg bank : ByteArray} (r : UInt16)
    (built : bank.toList = List.ofFn fun i : Fin prgUnit => nromBank prg r i) {i : Nat} (inBank : i < prgUnit) :
    prgByteAt? bank (0x8000 + i) = some (nromBank prg r i) ∧
      prgByteAt? bank (0xC000 + i) = some (nromBank prg r i) := by
  have size : bank.size = prgUnit := by rw [← ByteArray.length_toList, built, List.length_ofFn]
  have entry : bank[i]? = some (nromBank prg r i) := by
    rw [← ByteArray.getElem?_toList, built, List.getElem?_ofFn]
    simp [inBank]
  unfold prgUnit at inBank
  unfold prgByteAt?
  constructor
  · rw [if_neg (by omega), if_pos (by omega), show 0x8000 + i - 0x8000 = i by omega, entry]
  · rw [if_pos ⟨size, by omega⟩, show 0xC000 + i - 0xC000 = i by omega, entry]

/-- What inserting a built NROM image into a fresh console returns: the image reads back as its
program unit and `chrUnits % 256` character units, and is refused when those do not fit in
graphics memory, else installed on the empty bus with the processor waiting for a reset. -/
theorem Console.insert_buildNrom (prg : ByteArray) (chrUnits : Nat) (r : UInt16) (fits : prg.size ≤ prgUnit)
    (cycles : Nat) :
    ∃ image bank chr, buildNrom prg chrUnits (some r) = .ok image ∧
      bank.toList = (List.ofFn fun i : Fin prgUnit => nromBank prg r i) ∧
      chr.toList = List.replicate (chrUnits % 256 * chrUnit) 0xCC ∧
      (Console.withCyclesPerFrame cycles).insert image =
        if 2 < chrUnits % 256 then .error (.bus (.graphicsOverflow 0 (chrUnits % 256 * chrUnit) 0x4000))
        else .ok (⟨⟨Cpu.initial.requestReset, Bus.empty.withRom ⟨⟨1, chrUnits.toUInt8, 0, 0⟩, bank, chr⟩⟩, cycles⟩,
          ⟨⟨1, chrUnits.toUInt8, 0, 0⟩, bank, chr⟩) := by
  obtain ⟨image, built, bytes⟩ := buildNrom_toList prg chrUnits r fits
  have units : chrUnits.toUInt8.toNat = chrUnits % 256 := by simp
  have split : image.toList = [0x4E, 0x45, 0x53, 0x1A, 1, chrUnits.toUInt8, 0, 0] ++ List.replicate 8 0 ++
      ((List.ofFn fun i : Fin prgUnit => nromBank prg r i) ++ List.replicate (chrUnits * chrUnit) 0xCC) := by
    rw [bytes, ← List.append_assoc]
    rfl
  have fewer : chrUnits % 256 * chrUnit ≤ chrUnits * chrUnit := Nat.mul_le_mul_right _ (Nat.mod_le _ _)
  obtain ⟨bank, chr, read, bankBytes, chrBytes⟩ := Cartridge.ofInes_of_toList (List.length_replicate) split
    (by decide) (by simpa [units] using fewer)
  have bankList : bank.toList = List.ofFn fun i : Fin prgUnit => nromBank prg r i := by
    rw [bankBytes, show (1 : UInt8).toNat * prgUnit = prgUnit from Nat.one_mul _]
    exact List.take_left' (List.length_ofFn)
  have chrList : chr.toList = List.replicate (chrUnits % 256 * chrUnit) 0xCC := by
    rw [chrBytes, show (1 : UInt8).toNat * prgUnit = prgUnit from Nat.one_mul _,
      List.drop_left' (List.length_ofFn), units, List.take_replicate, Nat.min_eq_left fewer]
  refine ⟨image, bank, chr, built, bankList, chrList, ?_⟩
  have bankSize : bank.size = prgUnit := by rw [← ByteArray.length_toList, bankList, List.length_ofFn]
  have chrSize : chr.size = chrUnits % 256 * chrUnit := by
    rw [← ByteArray.length_toList, chrList, List.length_replicate]
  unfold Console.insert Console.withCyclesPerFrame Machine.initial
  simp only [Bus.loadImage_eq, read]
  have prgFits : bank.size ≤ 0x8000 := by rw [bankSize]; decide
  split_ifs with tooMany
  · -- more than two units do not fit in graphics memory
    rw [Bus.install_of_chr_overflow Bus.empty prgFits (by rw [chrSize]; unfold chrUnit; omega), chrSize]
    rfl
  · rw [Bus.install_of_fits Bus.empty _ prgFits (by rw [chrSize]; unfold chrUnit graphicsSize; omega)]
    rfl

/-- A vector is its two bytes, low byte first. -/
theorem Bus.vectorAt_eq_wordOf (b : Bus) (addr : Nat) :
    b.vectorAt addr = wordOf (b.byteAt addr) (b.byteAt (addr + 1)) := by
  apply UInt16.toNat_inj.1
  have low := (b.byteAt addr).toNat_lt
  have high := (b.byteAt (addr + 1)).toNat_lt
  rw [wordOf_toNat, Bus.vectorAt]
  simp only [Bus.valueAt, Nat.toUInt16, UInt16.toNat_ofNat']
  omega

/-- A one-byte read in the cartridge window answers the byte there. -/
theorem Bus.readByte_window (b : Bus) {addr : Nat} (lo : 0x4020 ≤ addr) (hi : addr < 0x10000) :
    b.readByte addr.toUInt16 = .ok (b.byteAt addr) := by
  have exact : addr.toUInt16.toNat = addr := by
    simp only [Nat.toUInt16, UInt16.toNat_ofNat']
    omega
  rw [Bus.readByte_of_not_inGap (by rw [exact]; unfold InGap; omega), exact]

/-- After the reset that follows installing an NROM program unit on the empty bus, the processor
starts at `r` with the registers cleared, the unit shows at `$8000` and again at `$C000`, and the
character ROM sits at the bottom of graphics memory with zeros above it. -/
theorem Bus.nrom_reset_state {prg bank : ByteArray} {r : UInt16} (h : Header) (chr : ByteArray)
    (built : bank.toList = List.ofFn fun i : Fin prgUnit => nromBank prg r i) :
    Cpu.reset (Bus.empty.withRom ⟨h, bank, chr⟩).reset = Cpu.afterReset r ∧
      (∀ i < prgUnit,
        (Bus.empty.withRom ⟨h, bank, chr⟩).reset.readByte (0x8000 + i).toUInt16 = .ok (nromBank prg r i) ∧
        (Bus.empty.withRom ⟨h, bank, chr⟩).reset.readByte (0xC000 + i).toUInt16 = .ok (nromBank prg r i)) ∧
      ∀ i : Fin 0x4000, (Bus.empty.withRom ⟨h, bank, chr⟩).reset.graphics.get i = chr[i.val]?.getD 0 := by
  -- each byte of the unit reads back at both of its addresses
  have shown : ∀ i < prgUnit,
      (Bus.empty.withRom ⟨h, bank, chr⟩).reset.byteAt (0x8000 + i) = nromBank prg r i ∧
      (Bus.empty.withRom ⟨h, bank, chr⟩).reset.byteAt (0xC000 + i) = nromBank prg r i := by
    intro i inBank
    obtain ⟨low, high⟩ := prgByteAt?_nrom r built inBank
    unfold prgUnit at inBank
    rw [Bus.byteAt_reset_of_window _ (by omega), Bus.byteAt_withRom _ _ (by omega) (by omega), low,
      Bus.byteAt_reset_of_window _ (by omega), Bus.byteAt_withRom _ _ (by omega) (by omega), high]
    exact ⟨rfl, rfl⟩
  refine ⟨?_, fun i inBank => ?_, fun i => ?_⟩
  · -- the reset vector is the unit's bytes 16380 and 16381, seen through the mirror
    rw [Cpu.reset, Bus.vectorAt_eq_wordOf, show resetVector.toNat = 0xC000 + 16380 from rfl,
      (shown 16380 (by decide)).2, show 0xC000 + 16380 + 1 = 0xC000 + 16381 from rfl,
      (shown 16381 (by decide)).2]
    rw [show nromBank prg r 16380 = r.toUInt8 from rfl, show nromBank prg r 16381 = (r >>> 8).toUInt8 from rfl,
      wordOf_bytes]
  · have := inBank
    unfold prgUnit at this
    rw [Bus.readByte_window _ (by omega) (by omega), Bus.readByte_window _ (by omega) (by omega),
      (shown i inBank).1, (shown i inBank).2]
    exact ⟨rfl, rfl⟩
  · show (Vector.ofFn _).get i = _
    rw [Bus.vector_get_eq, Vector.getElem_ofFn, Fin.eta]
    simp only [Bus.empty, Bus.vector_get_eq, Vector.getElem_replicate]

/-! ## The round trip -/

/-- Building an NROM image from a program of at most one unit always succeeds, and inserting it
into a fresh console succeeds exactly when the character unit count modulo 256 is at most two,
since the header keeps only that remainder; a larger remainder is refused with
`GraphicsOverflow`. After a successful insertion and a reset the processor starts at `r` with A,
X, Y and the status byte zero and the stack pointer at `$FF`, reads at `$8000 + i` and at
`$C000 + i` both give byte `i` of `nromBank prg r`, and graphics memory holds
`8192 * (chrUnits % 256)` bytes `$CC` followed by zeros. -/
theorem Console.nrom_round_trip (prg : ByteArray) (chrUnits : Nat) (r : UInt16) (fits : prg.size ≤ prgUnit)
    (cycles : Nat) :
    ∃ image, buildNrom prg chrUnits (some r) = .ok image ∧
      (2 < chrUnits % 256 → (Console.withCyclesPerFrame cycles).insert image =
        .error (.bus (.graphicsOverflow 0 (chrUnits % 256 * chrUnit) 0x4000))) ∧
      (chrUnits % 256 ≤ 2 → ∃ console cart,
        (Console.withCyclesPerFrame cycles).insert image = .ok (console, cart) ∧
        console.reset.machine.cpu = Cpu.afterReset r ∧
        (∀ i < prgUnit, console.reset.machine.bus.readByte (0x8000 + i).toUInt16 = .ok (nromBank prg r i) ∧
          console.reset.machine.bus.readByte (0xC000 + i).toUInt16 = .ok (nromBank prg r i)) ∧
        ∀ i : Fin 0x4000, console.reset.machine.bus.graphics.get i =
          if i.val < chrUnits % 256 * chrUnit then 0xCC else 0) := by
  obtain ⟨image, bank, chr, built, bankList, chrList, inserted⟩ :=
    Console.insert_buildNrom prg chrUnits r fits cycles
  refine ⟨image, built, fun tooMany => by rw [inserted, if_pos tooMany], fun few => ?_⟩
  obtain ⟨started, shown, graphics⟩ := Bus.nrom_reset_state ⟨1, chrUnits.toUInt8, 0, 0⟩ chr bankList
  rw [inserted, if_neg (by omega)]
  refine ⟨_, _, rfl, started, shown, fun i => ?_⟩
  -- the character ROM is `chrUnits % 256` units of `$CC`
  refine (graphics i).trans ?_
  rw [← ByteArray.getElem?_toList, chrList, List.getElem?_replicate]
  split_ifs <;> rfl

/-- The empty program with one character unit inserts into a fresh console, and a reset then
starts at `$8000`. -/
theorem empty_program_nrom_starts_at_reset_vector :
    ByteArray.empty.size ≤ prgUnit ∧ 1 % 256 ≤ 2 ∧
      ∃ image, buildNrom ByteArray.empty 1 (some 0x8000) = .ok image ∧
        ∃ console cart, (Console.withCyclesPerFrame 0).insert image = .ok (console, cart) ∧
          console.reset.machine.cpu = Cpu.afterReset 0x8000 := by
  obtain ⟨image, built, -, inserted⟩ := Console.nrom_round_trip ByteArray.empty 1 0x8000 (by decide) 0
  obtain ⟨console, cart, ok, started, -⟩ := inserted (by decide)
  exact ⟨by decide, by decide, image, built, console, cart, ok, started⟩

/-- With 256 character units the header records none: the image inserts into a fresh console,
and after a reset graphics memory is all zeros rather than 2 MiB of `$CC`. -/
theorem nrom_with_256_character_units_inserts :
    ∃ image, buildNrom ByteArray.empty 256 (some 0x8000) = .ok image ∧
      ∃ console cart, (Console.withCyclesPerFrame 0).insert image = .ok (console, cart) ∧
        ∀ i : Fin 0x4000, console.reset.machine.bus.graphics.get i = 0 := by
  obtain ⟨image, bank, chr, built, bankList, chrList, inserted⟩ :=
    Console.insert_buildNrom ByteArray.empty 256 0x8000 (by decide) 0
  rw [if_neg (by decide)] at inserted
  refine ⟨image, built, _, _, inserted, fun i => ?_⟩
  refine ((Bus.nrom_reset_state ⟨1, (256 : Nat).toUInt8, 0, 0⟩ chr bankList).2.2 i).trans ?_
  rw [← ByteArray.getElem?_toList, chrList]
  rfl

end NesMachine
