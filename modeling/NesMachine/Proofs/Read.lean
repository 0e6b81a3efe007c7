import Mathlib.Algebra.BigOperators.Ring.Finset
import Mathlib.Tactic.Ring
import NesMachine.Proofs.Write
/-!
# What a bus read answers

A read of `width` bytes is checked against the region holding its first byte only, unlike a
write, which is split at region ends. Its answer is the little-endian number of the bytes the
addresses decode to, each byte mirrored on its own, so a RAM read from `$07FF` continues at
physical byte 0.

* `Bus.valueAt_eq_sum`: the answer is `∑ i < width, byte (addr + i) * 256 ^ i`;
* `Bus.writeValue_read`: a value written where a read succeeds reads back, bytes that cross the
  physical end of RAM included;
* `Bus.read_outcome`: the error precedence, the answer, the round trip and the mirrors of RAM.
-/

namespace NesMachine

namespace Bus

/-! ## The answer of a read -/

theorem valueAt_eq_sum (b : Bus) (addr width : Nat) :
    b.valueAt addr width = ∑ i ∈ Finset.range width, (b.byteAt (addr + i)).toNat * 256 ^ i := by
  induction width generalizing addr with
  | zero => simp [valueAt]
  | succ width ih =>
    rw [valueAt, ih, Finset.sum_range_succ', Finset.mul_sum, add_comm]
    have shift : ∀ i, addr + 1 + i = addr + (i + 1) := fun i => by omega
    simp only [shift, pow_succ, Nat.add_zero, pow_zero, mul_one]
    congr 1
    refine Finset.sum_congr rfl (fun i _ => ?_)
    ring

/-- A read passes its checks exactly when a region holds `addr` and has room for the whole
width from there on. -/
theorem readCheck_eq_none_iff {addr : UInt16} {width : Nat} :
    readCheck addr width = none ↔
      ∃ r, Region.ofAddress? addr.toNat = some r ∧ width ≤ r.room addr.toNat := by
  unfold readCheck
  constructor
  · intro h
    split_ifs at h
    split at h
    · cases h
    · rename_i r found
      split_ifs at h with beyond
      exact ⟨r, found, by omega⟩
  · rintro ⟨r, found, room⟩
    have := Region.le_last_of_ofAddress? found
    have := Region.last_lt r
    have fits : ¬ addr.toNat + width > 0x10000 := by simp only [Region.room] at room; omega
    simp [fits, found, not_lt.2 room]

theorem read_of_readCheck {b : Bus} {addr : UInt16} {width : Nat} (h : readCheck addr width = none) :
    b.read addr width = .ok (b.valueAt addr.toNat width) := by
  simp [read, h]

/-! ## Writing a value and reading it back -/

theorem leBytes_length (width value : Nat) : (leBytes width value).length = width := by
  induction width generalizing value with
  | zero => rfl
  | succ width ih => simp [leBytes, ih]

/-- Where the bytes from `addr` on are the little-endian bytes of `value`, they read as `value`
less its bits above the width. -/
theorem valueAt_of_leBytes {b : Bus} {addr width value : Nat}
    (h : ∀ i < width, b.byteAt (addr + i) = (leBytes width value).getD i 0) :
    b.valueAt addr width = value % 256 ^ width := by
  induction width generalizing addr value with
  | zero => simp [valueAt, Nat.mod_one]
  | succ width ih =>
    have low : b.byteAt addr = (value % 256).toUInt8 := by simpa [leBytes] using h 0 (by omega)
    have high : b.valueAt (addr + 1) width = value / 256 % 256 ^ width :=
      ih (fun i hi => by simpa [leBytes, Nat.add_assoc, Nat.add_comm 1 i] using h (i + 1) (by omega))
    have byte : (value % 256).toUInt8.toNat = value % 256 := by
      simp [Nat.toUInt8, UInt8.toNat_ofNat']
    rw [valueAt, low, high, byte, pow_succ', Nat.mod_mul]

/-- A run of at most `$800` bytes reaches pairwise distinct cells, so each mapped address of
the run reads back its own byte. -/
theorem byteAt_pokeAll {b : Bus} {addr i : Nat} {data : List UInt8} (short : data.length ≤ 0x800)
    (hi : i < data.length) (mapped : Cell.ofAddress? (addr + i) ≠ none) :
    (b.pokeAll addr data).byteAt (addr + i) = data[i] := by
  obtain ⟨c, found⟩ := Option.ne_none_iff_exists'.1 mapped
  unfold byteAt
  rw [found]
  rcases get_pokeAll b addr data c with ⟨-, unaimed⟩ | ⟨i', hi', aimed, last, value⟩
  · exact absurd found (unaimed i hi)
  · -- `i'` is the last position aimed at `c`, and no other position of the run reaches it
    rcases Nat.lt_trichotomy i i' with lt | rfl | gt
    · exact absurd aimed (Cell.ofAddress?_ne_of_lt (by omega) (by omega) found)
    · exact value
    · exact absurd found (last i gt hi)

/-- Where a read of `width ≤ $800` bytes succeeds, writing `value` there as `width` bytes
succeeds and the read then answers `value` less its bits above the width. -/
theorem writeValue_read {b : Bus} {addr : UInt16} {width : Nat} (value : Nat)
    (positive : 0 < width) (short : width ≤ 0x800) (h : readCheck addr width = none) :
    ∃ b', b.writeValue addr width value = .ok b' ∧ b'.read addr width = .ok (value % 256 ^ width) := by
  obtain ⟨r, found, room⟩ := readCheck_eq_none_iff.1 h
  have := Region.le_last_of_ofAddress? found
  have := Region.last_lt r
  simp only [Region.room] at room
  -- every byte of the range lies in the region that holds `addr`
  have inside : ∀ x, addr.toNat ≤ x → x < addr.toNat + width → Region.ofAddress? x = some r :=
    fun x lo hi => Region.ofAddress?_of_le_last found lo (by omega)
  have noGap : firstGap addr.toNat width = none := by
    refine firstGap_eq_none_iff.2 (fun x lo hi gap => ?_)
    have := Region.ofAddress?_eq_none_iff.2 (.inl gap)
    rw [inside x lo hi] at this
    cases this
  have written : b.writeValue addr width value = .ok (b.pokeAll addr.toNat (leBytes width value)) := by
    have nonempty : leBytes width value ≠ [] := by
      rw [← List.length_pos_iff, leBytes_length]; exact positive
    have fits : ¬ 0x10000 < addr.toNat + (leBytes width value).length := by
      rw [leBytes_length]; omega
    rw [writeValue, write_eq b addr _, if_neg nonempty, if_neg fits, leBytes_length, noGap]
  refine ⟨_, written, ?_⟩
  rw [read_of_readCheck h]
  congr 1
  refine valueAt_of_leBytes (fun i hi => ?_)
  have mapped : Cell.ofAddress? (addr.toNat + i) ≠ none := by
    rw [Ne, Cell.ofAddress?_eq_none_iff, inside _ (by omega) (by omega)]
    simp
  have within : i < (leBytes width value).length := by rw [leBytes_length]; exact hi
  rw [byteAt_pokeAll (by rw [leBytes_length]; exact short) within mapped, List.getD_eq_getElem?_getD,
    List.getElem?_eq_getElem within, Option.getD_some]

/-! ## RAM mirrors -/

/-- A byte written at a RAM address is read back at every mirror of it. -/
theorem writeByte_readByte_mirror (b : Bus) {addr : UInt16} (v : UInt8) (ram : addr.toNat < 0x2000)
    {k : Nat} (mirror : addr.toNat % 0x800 + 0x800 * k < 0x2000) :
    ∃ b', b.writeByte addr v = .ok b' ∧
      b'.readByte (addr.toNat % 0x800 + 0x800 * k).toUInt16 = .ok v := by
  refine ⟨_, b.writeByte_of_not_inGap v (by unfold InGap; omega), ?_⟩
  have back : (addr.toNat % 0x800 + 0x800 * k).toUInt16.toNat = addr.toNat % 0x800 + 0x800 * k := by
    simp [Nat.toUInt16, UInt16.toNat_ofNat']; omega
  have region : Region.ofAddress? (addr.toNat % 0x800 + 0x800 * k) = some .ram :=
    Region.ofAddress?_eq_some_iff.2 ⟨Nat.zero_le _, by simp only [Region.last]; omega⟩
  -- the mirror decodes to the physical byte the write reached
  have same : Cell.ofAddress? (addr.toNat % 0x800 + 0x800 * k) = Cell.ofAddress? addr.toNat := by
    rw [Cell.ofAddress?_of_lt_ram mirror, Cell.ofAddress?_of_lt_ram ram]
    simp [Nat.add_mul_mod_self_left]
  rw [readByte_eq, back, region]
  simp [byteAt, same, Cell.ofAddress?_of_lt_ram ram, get_poke]

/-! ## Reads -/

/-- A read is refused when it runs past `$FFFF`, then when its first byte lies in a gap, then
when it runs past the end of the region holding its first byte; otherwise it answers the
little-endian number of the bytes from `addr` on, each in the cell its address decodes to.
Hence a value of 1, 2, 4 or 8 bytes written where a read succeeds reads back, and a byte
written at a RAM address is read at each of its mirrors. -/
theorem read_outcome (b : Bus) (a : UInt16) :
    (∀ w, 0x10000 < a.toNat + w → b.read a w = .error (.outOfRange a w)) ∧
    (∀ w, a.toNat + w ≤ 0x10000 → InGap a.toNat → b.read a w = .error (.unmapped a)) ∧
    (∀ w (r : Region), r.start ≤ a.toNat → a.toNat ≤ r.last → a.toNat + w ≤ 0x10000 →
      r.last + 1 < a.toNat + w → b.read a w = .error (.regionOverflow r a w)) ∧
    (∀ w (r : Region), r.start ≤ a.toNat → a.toNat ≤ r.last → a.toNat + w ≤ r.last + 1 →
      b.read a w = .ok (∑ i ∈ Finset.range w, (b.byteAt (a.toNat + i)).toNat * 256 ^ i)) ∧
    (∀ w ∈ [1, 2, 4, 8], ∀ v < 256 ^ w, (∃ n, b.read a w = .ok n) →
      ∃ b', b.writeValue a w v = .ok b' ∧ b'.read a w = .ok v) ∧
    (a.toNat < 0x2000 → ∀ k v, a.toNat % 0x800 + 0x800 * k < 0x2000 →
      ∃ b', b.writeByte a v = .ok b' ∧ b'.readByte (a.toNat % 0x800 + 0x800 * k).toUInt16 = .ok v) := by
  refine ⟨fun w beyond => by simp [read, readCheck, beyond], fun w fits gap => ?_,
    fun w r lo hi fits beyond => ?_, fun w r lo hi within => ?_, fun w hw v hv ok => ?_,
    fun ram k v mirror => writeByte_readByte_mirror b v ram mirror⟩
  · have unmapped : Region.ofAddress? a.toNat = none := Region.ofAddress?_eq_none_iff.2 (.inl gap)
    simp [read, readCheck, unmapped, not_lt.2 fits]
  · have found : Region.ofAddress? a.toNat = some r := Region.ofAddress?_eq_some_iff.2 ⟨lo, hi⟩
    have past : w > r.room a.toNat := by simp only [Region.room]; omega
    simp [read, readCheck, found, past, not_lt.2 fits]
  · have found : Region.ofAddress? a.toNat = some r := Region.ofAddress?_eq_some_iff.2 ⟨lo, hi⟩
    rw [read_of_readCheck (readCheck_eq_none_iff.2 ⟨r, found, by simp only [Region.room]; omega⟩),
      valueAt_eq_sum]
  · -- the read's checks do not depend on the bus, so `ok` means they passed
    have passed : readCheck a w = none := by
      obtain ⟨n, h⟩ := ok
      unfold read at h
      split at h
      · cases h
      · assumption
    have width : 0 < w ∧ w ≤ 0x800 := by simp at hw; omega
    obtain ⟨b', written, back⟩ := writeValue_read v width.1 width.2 passed
    exact ⟨b', written, by rw [back, Nat.mod_eq_of_lt hv]⟩

/-- A word written at `$07FF` spans the physical end of RAM and reads back whole. -/
theorem word_read_back_across_ram_end :
    (2 ∈ [1, 2, 4, 8] ∧ 0x1234 < 256 ^ 2 ∧ ∃ n, Bus.empty.read 0x07FF 2 = .ok n) ∧
      ∃ b', Bus.empty.writeValue 0x07FF 2 0x1234 = .ok b' ∧ b'.read 0x07FF 2 = .ok 0x1234 := by
  have readable : ∃ n, Bus.empty.read 0x07FF 2 = .ok n := ⟨_, read_of_readCheck (by decide)⟩
  exact ⟨⟨by decide, by decide, readable⟩,
    (read_outcome Bus.empty 0x07FF).2.2.2.2.1 2 (by decide) 0x1234 (by decide) readable⟩

end Bus

end NesMachine
