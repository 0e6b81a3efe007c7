import NesMachine.Proofs.Write
import NesMachine.Cartridge.Loader
/-!
# Installing a cartridge

`Bus.install` checks both ROM sizes before it copies anything, and each copy it then makes lies
where the later `Bus.write` and `Bus.writeGraphics` checks accept it: the program ROM wholly in
the cartridge window, which has no gaps, and the character ROM from the bottom of graphics memory.
So an installation is refused whole or completes whole, and what it leaves is `Bus.withRom`:

* `Bus.pokeAll_window`: a run stored from `$4020` or above changes only the cartridge window;
* `Bus.writeGraphics_of_fits`: an upload that fits copies its bytes;
* `Bus.pokeAll_prg`, `Bus.pokeAll_prg_mirrored`: the program ROM's one or two copies place it as
  `prgByteAt?` says;
* `Bus.install_of_fits`, `Bus.install_outcome`: the refusals in their order, and otherwise
  `withRom`.
-/

/-! ## Byte arrays as lists -/

namespace ByteArray

/-- Reading a byte array into a list reads its bytes in order. -/
theorem toList_eq_data_toList (bs : ByteArray) : bs.toList = bs.data.toList := by
  -- the loop has put the first `i` bytes, reversed, in front of what is still to read
  suffices loop : ∀ i r, toList.loop bs i r = r.reverse ++ bs.data.toList.drop i by
    show toList.loop bs 0 [] = _
    simpa using loop 0 []
  intro i r
  fun_induction toList.loop bs i r with
  | case1 i r lt ih =>
    rw [ih]
    have lt' : i < bs.data.size := lt
    have get : bs.get! i = bs.data[i] := by
      cases bs; simp [ByteArray.get!, getElem!_pos, lt']
    rw [get, List.reverse_cons, List.append_assoc, List.singleton_append,
      ← Array.getElem_toList, List.getElem_cons_drop]
  | case2 i r ge =>
    have : bs.data.toList.length ≤ i := by simp [size_data]; omega
    simp [List.drop_eq_nil_of_le this]

@[simp] theorem length_toList (bs : ByteArray) : bs.toList.length = bs.size := by
  simp [toList_eq_data_toList, size_data]

@[simp] theorem getElem?_toList (bs : ByteArray) (i : Nat) : bs.toList[i]? = bs[i]? := by
  rw [toList_eq_data_toList, Array.getElem?_toList]
  by_cases h : i < bs.size
  · rw [getElem?_pos bs i h, getElem?_pos bs.data i (by rwa [size_data])]
    rfl
  · rw [getElem?_neg bs i h, getElem?_neg bs.data i (by rwa [size_data])]

end ByteArray

namespace NesMachine

/-! ## The bus a cartridge leaves -/

/-- The byte of a program ROM `prg` the cartridge window shows at `addr` once installed: byte
`i` at `$8000 + i`, and a single 16 KiB unit once more at `$C000 + i`; `none` where it does not
reach. -/
def prgByteAt? (prg : ByteArray) (addr : Nat) : Option UInt8 :=
  if prg.size = prgUnit ∧ 0xC000 ≤ addr then prg[addr - 0xC000]?
  else if 0x8000 ≤ addr then prg[addr - 0x8000]?
  else none

/-- The bus once a cartridge is installed: the program ROM in the cartridge window where
`prgByteAt?` puts it, the character ROM from the bottom of graphics memory, and every other byte
as it was. -/
def Bus.withRom (b : Bus) (c : Cartridge) : Bus :=
  { b with
    cartridge := Vector.ofFn fun i => (prgByteAt? c.prg (0x4020 + i.val)).getD (b.cartridge.get i)
    graphics := Vector.ofFn fun i => c.chr[i.val]?.getD (b.graphics.get i) }

namespace Bus

/-! ## Stores into the cartridge window -/

/-- A bus is its cells and its graphics memory. -/
theorem ext_get {b b' : Bus} (cells : ∀ c, b.get c = b'.get c) (graphics : b.graphics = b'.graphics) :
    b = b' := by
  obtain ⟨ram, ppu, apu, cart, g⟩ := b
  obtain ⟨ram', ppu', apu', cart', g'⟩ := b'
  simp only [Bus.mk.injEq]
  exact ⟨Vector.ext fun i hi => cells (.ram ⟨i, hi⟩), Vector.ext fun i hi => cells (.ppuLatch ⟨i, hi⟩),
    Vector.ext fun i hi => cells (.apuLatch ⟨i, hi⟩), Vector.ext fun i hi => cells (.cartridge ⟨i, hi⟩),
    graphics⟩

/-- A cell no position of a run reaches keeps its byte. -/
theorem get_pokeAll_of_unaimed (b : Bus) (addr : Nat) (data : List UInt8) {c : Cell}
    (unaimed : ∀ i < data.length, Cell.ofAddress? (addr + i) ≠ some c) :
    (b.pokeAll addr data).get c = b.get c := by
  rcases get_pokeAll b addr data c with ⟨kept, -⟩ | ⟨i, hi, aimed, -, -⟩
  · exact kept
  · exact absurd aimed (unaimed i hi)

/-- Replacing the cartridge window leaves every other cell as it was. -/
theorem get_with_cartridge_of_ne (b : Bus) (v : Vector UInt8 0xBFE0) {c : Cell}
    (outside : ∀ i, c ≠ .cartridge i) : ({ b with cartridge := v }).get c = b.get c := by
  cases c with
  | cartridge i => exact absurd rfl (outside i)
  | _ => rfl

/-- Replacing graphics memory leaves every cell as it was. -/
theorem get_with_graphics (b : Bus) (g : Vector UInt8 0x4000) (c : Cell) :
    ({ b with graphics := g }).get c = b.get c := by
  cases c <;> rfl

/-- A run stored from `$4020` or above changes only the cartridge window, where the byte at
`$4020 + i` becomes the run's byte aimed at it, if any. -/
theorem pokeAll_window (b : Bus) {addr : Nat} (data : List UInt8) (lo : 0x4020 ≤ addr) :
    b.pokeAll addr data = { b with cartridge := Vector.ofFn fun i =>
      (if addr ≤ 0x4020 + i.val then data[0x4020 + i.val - addr]? else none).getD (b.cartridge.get i) } := by
  refine ext_get (fun c => ?_) (pokeAll_graphics b addr data)
  cases c with
  | cartridge i =>
    show _ = (Vector.ofFn _).get i
    rw [vector_get_eq, Vector.getElem_ofFn, Fin.eta]
    -- the one address that reaches the cell is `$4020 + i`
    have reach : ∀ j, Cell.ofAddress? (addr + j) = some (.cartridge i) ↔ addr + j = 0x4020 + i.val :=
      fun j => Cell.ofAddress?_eq_some_iff
    rcases get_pokeAll b addr data (.cartridge i) with ⟨kept, unaimed⟩ | ⟨j, hj, aimed, -, value⟩
    · rw [kept]
      split_ifs with below
      · have beyond : data.length ≤ 0x4020 + i.val - addr := by
          by_contra short
          exact unaimed (0x4020 + i.val - addr) (by omega) ((reach _).2 (by omega))
        rw [List.getElem?_eq_none beyond]
        rfl
      · rfl
    · have at_j := (reach j).1 aimed
      rw [value, if_pos (by omega), show 0x4020 + i.val - addr = j by omega, List.getElem?_eq_getElem hj]
      rfl
  | _ =>
    rw [get_with_cartridge_of_ne b _ (by simp)]
    refine get_pokeAll_of_unaimed b addr data (fun j _ reach => ?_)
    rw [Cell.ofAddress?_eq_some_iff] at reach
    omega

/-- A write that lies wholly in the cartridge window stores its bytes. -/
theorem write_window (b : Bus) {a : UInt16} {data : List UInt8} (nonempty : data ≠ [])
    (lo : 0x4020 ≤ a.toNat) (fits : a.toNat + data.length ≤ 0x10000) :
    b.write a data = .ok (b.pokeAll a.toNat data) := by
  have noGap : firstGap a.toNat data.length = none :=
    firstGap_eq_none_iff.2 fun x lo' _ gap => by simp only [InGap] at gap; omega
  rw [write_eq, if_neg nonempty, if_neg (by omega), noGap]

/-! ## Graphics uploads -/

/-- Uploading a run into a vector from `offset` sets each position the run reaches, position
`offset + j` to the run's byte `j`. -/
theorem getElem_upload {n : Nat} (g : Vector UInt8 n) (data : List UInt8) (offset : Nat) {k : Nat}
    (hk : k < n) :
    ((data.zipIdx offset).foldl (fun g p => g.setIfInBounds p.2 p.1) g)[k] =
      (if offset ≤ k then data[k - offset]? else none).getD g[k] := by
  induction data generalizing offset g with
  | nil => split_ifs <;> rfl
  | cons v rest ih =>
    rw [List.zipIdx_cons, List.foldl_cons, ih, Vector.getElem_setIfInBounds hk]
    -- the head lands at `offset`; the rest starts one further on
    rcases Nat.lt_trichotomy k offset with below | rfl | above
    · simp [show ¬ offset + 1 ≤ k by omega, show ¬ offset ≤ k by omega, show offset ≠ k by omega]
    · rw [if_neg (Nat.not_succ_le_self k), if_pos rfl, if_pos (Nat.le_refl k), Nat.sub_self]
      rfl
    · have shift : k - offset = k - (offset + 1) + 1 := by omega
      simp [show offset + 1 ≤ k by omega, show offset ≤ k by omega, show offset ≠ k by omega, shift]

/-- An upload from the bottom of graphics memory that fits copies its bytes there. -/
theorem writeGraphics_of_fits (b : Bus) {data : List UInt8} (nonempty : data ≠ [])
    (fits : data.length ≤ graphicsSize) :
    b.writeGraphics 0 data =
      .ok { b with graphics := Vector.ofFn fun i => data[i.val]?.getD (b.graphics.get i) } := by
  have accepted : (data.isEmpty || 0 + data.length > graphicsSize) = false := by
    simp only [List.isEmpty_eq_false_iff.2 nonempty, Bool.false_or, decide_eq_false_iff_not]
    omega
  rw [writeGraphics, accepted, if_neg Bool.false_ne_true]
  refine congrArg (fun g => Except.ok { b with graphics := g }) (Vector.ext fun k hk => ?_)
  rw [getElem_upload, Vector.getElem_ofFn, vector_get_eq]
  simp

end Bus

/-! ## Installing -/

/-- A program ROM that is not a single unit is copied once, from `$8000`. -/
theorem Bus.pokeAll_prg (b : Bus) {prg : ByteArray} (notUnit : prg.size ≠ prgUnit) :
    b.pokeAll 0x8000 prg.toList =
      { b with
        cartridge := Vector.ofFn fun i => (prgByteAt? prg (0x4020 + i.val)).getD (b.cartridge.get i) } := by
  rw [Bus.pokeAll_window b _ (by decide)]
  refine congrArg (fun v => { b with cartridge := v }) (congrArg Vector.ofFn (funext fun i => ?_))
  simp [prgByteAt?, notUnit]

/-- A single 16 KiB unit is copied from `$8000` and again from `$C000`, which it fills to the end
of the address space. -/
theorem Bus.pokeAll_prg_mirrored (b : Bus) {prg : ByteArray} (unit : prg.size = prgUnit) :
    (b.pokeAll 0x8000 prg.toList).pokeAll 0xC000 prg.toList =
      { b with
        cartridge := Vector.ofFn fun i => (prgByteAt? prg (0x4020 + i.val)).getD (b.cartridge.get i) } := by
  rw [Bus.pokeAll_window _ _ (by decide), Bus.pokeAll_window b _ (by decide)]
  refine congrArg (fun v => { b with cartridge := v }) (congrArg Vector.ofFn (funext fun i => ?_))
  rw [vector_get_eq, Vector.getElem_ofFn, Fin.eta]
  have within := i.isLt
  unfold prgByteAt?
  by_cases upper : 0xC000 ≤ 0x4020 + i.val
  · -- the mirror covers the upper half whole
    have copied : 0x4020 + i.val - 0xC000 < prg.toList.length := by
      rw [ByteArray.length_toList, unit]; unfold prgUnit; omega
    have both : prg.size = prgUnit ∧ 0xC000 ≤ 0x4020 + i.val := ⟨unit, upper⟩
    simp only [if_pos upper, if_pos both, ← ByteArray.getElem?_toList, List.getElem?_eq_getElem copied,
      Option.getD_some]
  · simp [upper]

/-- The character ROM goes in last: an empty one leaves graphics memory, any other that fits is
uploaded from its bottom. -/
theorem Bus.install_chr (bp : Bus) {chr : ByteArray} (fits : chr.size ≤ graphicsSize) :
    (if chr.isEmpty = true then pure bp else Except.mapError CartridgeError.bus (bp.writeGraphics 0 chr.toList)) =
      (.ok { bp with graphics := Vector.ofFn fun i => chr[i.val]?.getD (bp.graphics.get i) } :
        Except CartridgeError Bus) := by
  split_ifs with empty
  · have none : chr.toList = [] := by
      rw [← List.length_eq_zero_iff, ByteArray.length_toList]
      simpa [ByteArray.isEmpty] using empty
    refine congrArg Except.ok (Bus.ext_get (fun c => (Bus.get_with_graphics bp _ c).symm) ?_)
    refine Vector.ext fun k hk => ?_
    simp [← ByteArray.getElem?_toList, none, vector_get_eq]
  · have nonempty : chr.toList ≠ [] := by
      rw [Ne, ← List.length_eq_zero_iff, ByteArray.length_toList]
      simpa [ByteArray.isEmpty] using empty
    rw [Bus.writeGraphics_of_fits bp nonempty (by rwa [ByteArray.length_toList])]
    refine congrArg (fun g => Except.ok { bp with graphics := g }) (congrArg Vector.ofFn (funext fun i => ?_))
    rw [ByteArray.getElem?_toList]

/-- A cartridge whose program ROM fits from `$8000` to the end of the address space and whose
character ROM fits in graphics memory is installed whole: each copy it makes is accepted. -/
theorem Bus.install_of_fits (b : Bus) (c : Cartridge) (prgFits : c.prg.size ≤ 0x8000)
    (chrFits : c.chr.size ≤ graphicsSize) : b.install c = .ok (b.withRom c) := by
  have inRange : ¬ (prgLoadAddress.toNat + c.prg.size > 0x10000) := by
    change ¬ (0x8000 + c.prg.size > 0x10000); omega
  -- whatever the program copies leave, the character ROM then completes `withRom`
  have finish : ∀ bp : Bus, bp = { b with cartridge := Vector.ofFn fun i =>
      (prgByteAt? c.prg (0x4020 + i.val)).getD (b.cartridge.get i) } →
      (Except.ok { bp with graphics := Vector.ofFn fun i => c.chr[i.val]?.getD (bp.graphics.get i) } :
        Except CartridgeError Bus) = .ok (b.withRom c) := by
    rintro bp rfl
    rfl
  have copied : ∀ (bus : Bus) (a : UInt16), 0x4020 ≤ a.toNat → a.toNat + c.prg.size ≤ 0x10000 →
      c.prg.toList ≠ [] → bus.write a c.prg.toList = .ok (bus.pokeAll a.toNat c.prg.toList) :=
    fun bus a lo fits nonempty => Bus.write_window bus nonempty lo (by rwa [ByteArray.length_toList])
  unfold install
  rw [if_neg inRange, if_neg (Nat.not_lt.2 chrFits)]
  simp only [Bus.install_chr _ chrFits]
  split_ifs with empty unit
  · -- no program ROM: storing it is storing nothing
    have none : c.prg.toList = [] := List.isEmpty_iff.1 empty
    have notUnit : c.prg.size ≠ prgUnit := by
      rw [← ByteArray.length_toList, none]; decide
    exact finish b (by simpa [none] using Bus.pokeAll_prg b notUnit)
  · -- a single unit: copied from `$8000` and mirrored from `$C000`
    have size : c.prg.size = prgUnit := by rwa [← ByteArray.length_toList]
    have nonempty : c.prg.toList ≠ [] := fun e => by simp [e] at empty
    have fits : 0xC000 + c.prg.size ≤ 0x10000 := by rw [size]; decide
    simp only [copied b prgLoadAddress (by decide) (by change 0x8000 + _ ≤ _; omega) nonempty,
      Except.mapError, bind, Except.bind,
      copied _ prgMirrorAddress (by decide) (by change 0xC000 + _ ≤ _; omega) nonempty]
    exact finish _ (Bus.pokeAll_prg_mirrored b size)
  · -- any other size: copied once, from `$8000`
    have notUnit : c.prg.size ≠ prgUnit := by rwa [← ByteArray.length_toList]
    have nonempty : c.prg.toList ≠ [] := fun e => by simp [e] at empty
    rw [copied b prgLoadAddress (by decide) (by change 0x8000 + _ ≤ _; omega) nonempty]
    exact finish _ (Bus.pokeAll_prg b notUnit)

/-- A program ROM that would run past `$FFFF` from `$8000` is refused before anything is copied. -/
theorem Bus.install_of_prg_overflow (b : Bus) {c : Cartridge} (tooLarge : 0x8000 < c.prg.size) :
    b.install c = .error (.bus (.outOfRange 0x8000 c.prg.size)) := by
  have refused : prgLoadAddress.toNat + c.prg.size > 0x10000 := by
    change 0x8000 + c.prg.size > 0x10000; omega
  rw [install, if_pos refused]
  rfl

/-- A character ROM larger than graphics memory is refused next, before anything is copied. -/
theorem Bus.install_of_chr_overflow (b : Bus) {c : Cartridge} (fits : c.prg.size ≤ 0x8000)
    (tooLarge : 0x4000 < c.chr.size) :
    b.install c = .error (.bus (.graphicsOverflow 0 c.chr.size 0x4000)) := by
  have inRange : ¬ (prgLoadAddress.toNat + c.prg.size > 0x10000) := by
    change ¬ (0x8000 + c.prg.size > 0x10000); omega
  rw [install, if_neg inRange, if_pos (show c.chr.size > graphicsSize from tooLarge)]
  rfl

/-- Loading an image reads it, refused with the reader's error, then installs what was read. -/
theorem Bus.loadImage_eq (b : Bus) (data : ByteArray) :
    b.loadImage data = match Cartridge.ofInes data with
      | .error e => .error e
      | .ok c => (b.install c).map fun b' => (b', c) := by
  unfold loadImage
  cases Cartridge.ofInes data with
  | error e => rfl
  | ok c => cases b.install c <;> rfl

/-- Installing a cartridge is all or nothing. It is refused with `OutOfRange` at `$8000` when
the program ROM would run past `$FFFF`, and otherwise with `GraphicsOverflow` when the character
ROM does not fit in graphics memory; else every copy it makes is accepted and it returns
`withRom`, the bus whose cartridge window shows the program ROM at `$8000` (and a single 16 KiB
unit again at `$C000`), whose graphics memory starts with the character ROM, and whose RAM,
latches and every other byte are as they were. Loading an image reads it, refused with the
reader's error, then installs what was read. A refusal returns no bus, so the caller's bus is
never left half-loaded. -/
theorem Bus.install_outcome (b : Bus) (c : Cartridge) :
    b.install c =
      (if 0x8000 < c.prg.size then .error (.bus (.outOfRange 0x8000 c.prg.size))
      else if 0x4000 < c.chr.size then .error (.bus (.graphicsOverflow 0 c.chr.size 0x4000))
      else .ok (b.withRom c)) ∧
    ∀ data, b.loadImage data = match Cartridge.ofInes data with
      | .error e => .error e
      | .ok c => (b.install c).map fun b' => (b', c) := by
  refine ⟨?_, Bus.loadImage_eq b⟩
  by_cases prgOver : 0x8000 < c.prg.size
  · rw [if_pos prgOver, Bus.install_of_prg_overflow b prgOver]
  rw [if_neg prgOver]
  by_cases chrOver : 0x4000 < c.chr.size
  · rw [if_pos chrOver, Bus.install_of_chr_overflow b (by omega) chrOver]
  · rw [if_neg chrOver]
    exact Bus.install_of_fits b c (by omega) (by unfold graphicsSize; omega)

/-! ## Reading the installed ROM -/

/-- Through the cartridge window, an installed bus shows the program ROM where `prgByteAt?`
places it and what was there before elsewhere. -/
theorem Bus.byteAt_withRom (b : Bus) (c : Cartridge) {addr : Nat} (lo : 0x4020 ≤ addr)
    (hi : addr < 0x10000) :
    (b.withRom c).byteAt addr = (prgByteAt? c.prg addr).getD (b.byteAt addr) := by
  have window : Cell.ofAddress? addr = some (.cartridge ⟨addr - 0x4020, by omega⟩) :=
    Cell.ofAddress?_eq_some_iff.2 (by simp only; omega)
  simp only [byteAt, window, get, withRom]
  rw [vector_get_eq, Vector.getElem_ofFn]
  simp only [show 0x4020 + (addr - 0x4020) = addr by omega]

/-- Clearing RAM and the latches leaves the cartridge window. -/
theorem Bus.byteAt_reset_of_window (b : Bus) {addr : Nat} (lo : 0x4020 ≤ addr) :
    b.reset.byteAt addr = b.byteAt addr := by
  unfold byteAt
  cases found : Cell.ofAddress? addr with
  | none => rfl
  | some c =>
    rw [Cell.ofAddress?_eq_some_iff] at found
    cases c with
    | cartridge i => rfl
    | _ => simp only at found; omega

end NesMachine
