import Mathlib.Data.List.Range
import NesMachine.Memory.Bus
/-!
# The memory map, address by address

`Region.ofAddress?` and `Cell.ofAddress?` are chains of comparisons; here they are stated as the
intervals they decode, and the two gaps get a name of their own, `InGap`, written from the map
and not from the decoder. On top of that, `splitFrom`, the loop that cuts an access into
per-region pieces, either stops at the least gap address of the range or finds none there:

* `Region.ofAddress?_eq_some_iff`, `Region.ofAddress?_eq_none_iff`: a region is the interval
  `[start, last]`, and the gaps are all that lies between them below `$10000`;
* `Cell.ofAddress?_mod`: two addresses that reach the same cell agree modulo `$800`, so a run of
  at most `$800` bytes reaches pairwise distinct cells;
* `segments_eq_error_iff`, `segments_eq_ok_iff`: the split fails exactly at `firstGap`.
-/

namespace NesMachine

/-! ## Small facts about `Except` -/

theorem Except.map_eq_ok {ε α β : Type} {f : α → β} {x : Except ε α} {y : β}
    (h : f <$> x = .ok y) : ∃ z, x = .ok z ∧ y = f z := by
  cases x <;> simp_all [Functor.map, Except.map]

theorem Except.eq_error_of_map {ε α β : Type} {f : α → β} {x : Except ε α} {e : ε}
    (h : f <$> x = .error e) : x = .error e := by
  cases x <;> simp_all [Functor.map, Except.map]

theorem Except.bind_eq_ok {ε α β : Type} {x : Except ε α} {f : α → Except ε β} {b : β}
    (h : x >>= f = .ok b) : ∃ a, x = .ok a ∧ f a = .ok b := by
  cases x with
  | error e => cases h
  | ok a => exact ⟨a, rfl, h⟩

/-! ## Regions and gaps -/

/-- The two stretches of the address space that belong to no region: `$2008-$3FFF` and
`$4018-$401F`. -/
def InGap (addr : Nat) : Prop :=
  (0x2008 ≤ addr ∧ addr ≤ 0x3FFF) ∨ (0x4018 ≤ addr ∧ addr ≤ 0x401F)

instance : DecidablePred InGap := fun _ => inferInstanceAs (Decidable (_ ∨ _))

theorem Region.ofAddress?_eq_some_iff {addr : Nat} {r : Region} :
    Region.ofAddress? addr = some r ↔ r.start ≤ addr ∧ addr ≤ r.last := by
  unfold Region.ofAddress?
  cases r <;> split_ifs <;> simp [Region.start, Region.last] <;> omega

theorem Region.ofAddress?_eq_none_iff {addr : Nat} :
    Region.ofAddress? addr = none ↔ InGap addr ∨ 0x10000 ≤ addr := by
  unfold Region.ofAddress? InGap
  split_ifs <;> simp <;> omega

/-- Below `$10000` an address is mapped exactly when it is not in a gap. -/
theorem Region.ofAddress?_isSome_iff {addr : Nat} (h : addr < 0x10000) :
    (Region.ofAddress? addr).isSome ↔ ¬ InGap addr := by
  have : ¬ 0x10000 ≤ addr := by omega
  rw [← Option.ne_none_iff_isSome, ne_eq, Region.ofAddress?_eq_none_iff]
  simp [this]

/-- A region holds every address from one of its addresses up to its last. -/
theorem Region.ofAddress?_of_le_last {addr x : Nat} {r : Region}
    (h : Region.ofAddress? addr = some r) (lo : addr ≤ x) (hi : x ≤ r.last) :
    Region.ofAddress? x = some r := by
  rw [Region.ofAddress?_eq_some_iff] at h ⊢
  omega

/-- Every region lies below `$10000`. -/
theorem Region.last_lt (r : Region) : r.last < 0x10000 := by
  cases r <;> decide

/-! ## Cells -/

/-- An address reaches a cell exactly when it lies in a region. -/
theorem Cell.ofAddress?_eq_none_iff {addr : Nat} :
    Cell.ofAddress? addr = none ↔ Region.ofAddress? addr = none := by
  unfold Cell.ofAddress? Region.ofAddress?
  split_ifs <;> simp

theorem Cell.ofAddress?_of_lt_ram {addr : Nat} (h : addr < 0x2000) :
    Cell.ofAddress? addr = some (.ram ⟨addr % 0x800, Nat.mod_lt _ (by decide)⟩) := by
  simp [Cell.ofAddress?, h]

/-- The addresses that reach each cell: a RAM byte from each of its four mirrors, every other
cell from one address only. -/
theorem Cell.ofAddress?_eq_some_iff {x : Nat} {c : Cell} :
    Cell.ofAddress? x = some c ↔
      match c with
      | .ram i => x < 0x2000 ∧ x % 0x800 = i
      | .ppuLatch i => x = 0x2000 + i
      | .apuLatch i => x = 0x4000 + i
      | .cartridge i => x = 0x4020 + i := by
  unfold Cell.ofAddress?
  split_ifs <;> cases c <;> simp [Fin.ext_iff] <;> omega

/-- Two addresses that reach the same cell agree modulo `$800`: RAM mirrors with that period,
and every other cell is reached from one address only. -/
theorem Cell.ofAddress?_mod {x y : Nat} {c : Cell} (hx : Cell.ofAddress? x = some c)
    (hy : Cell.ofAddress? y = some c) : x % 0x800 = y % 0x800 := by
  rw [Cell.ofAddress?_eq_some_iff] at hx hy
  cases c <;> simp only at hx hy <;> omega

/-- Distinct addresses less than `$800` apart reach distinct cells. -/
theorem Cell.ofAddress?_ne_of_lt {x y : Nat} {c : Cell} (lt : x < y) (near : y < x + 0x800)
    (hx : Cell.ofAddress? x = some c) : Cell.ofAddress? y ≠ some c := by
  intro hy
  have := Cell.ofAddress?_mod hx hy
  omega

/-! ## Splitting an access at region ends -/

/-- The least address of `[addr, addr + len)` that lies in a gap, if any. -/
def firstGap (addr len : Nat) : Option Nat :=
  (List.range' addr len).find? (fun x => InGap x)

theorem firstGap_eq_some_iff {addr len g : Nat} :
    firstGap addr len = some g ↔
      addr ≤ g ∧ g < addr + len ∧ InGap g ∧ ∀ x, addr ≤ x → x < g → ¬ InGap x := by
  induction len generalizing addr with
  | zero => simp [firstGap]; omega
  | succ len ih =>
    unfold firstGap at ih ⊢
    rw [List.range'_succ, List.find?_cons]
    by_cases gap : InGap addr
    · simp only [gap, decide_true, Option.some.injEq]
      constructor
      · rintro rfl
        exact ⟨le_rfl, by omega, gap, fun x lo hi => by omega⟩
      · rintro ⟨lo, -, -, least⟩
        by_contra ne
        exact least addr le_rfl (by omega) gap
    · simp only [gap, decide_false, ih]
      constructor
      · rintro ⟨lo, hi, ingap, least⟩
        refine ⟨by omega, by omega, ingap, fun x lo' hi' => ?_⟩
        rcases Nat.eq_or_lt_of_le lo' with rfl | lt
        · exact gap
        · exact least x lt hi'
      · rintro ⟨lo, hi, ingap, least⟩
        have : addr ≠ g := fun eq => gap (eq ▸ ingap)
        exact ⟨by omega, by omega, ingap, fun x lo' hi' => least x (by omega) hi'⟩

theorem firstGap_eq_none_iff {addr len : Nat} :
    firstGap addr len = none ↔ ∀ x, addr ≤ x → x < addr + len → ¬ InGap x := by
  simp only [firstGap, List.find?_eq_none, List.mem_range'_1, decide_eq_true_eq]
  exact ⟨fun h x lo hi => h x ⟨lo, hi⟩, fun h x ⟨lo, hi⟩ => h x lo hi⟩

/-- A piece that fits in the room left in the region holding its first address lies in that
region. -/
theorem Region.ofAddress?_isSome_of_le_room {cursor x len : Nat} {r : Region}
    (found : Region.ofAddress? cursor = some r) (fits : len ≤ r.room cursor) (lo : cursor ≤ x)
    (hi : x < cursor + len) : (Region.ofAddress? x).isSome := by
  have := Region.le_last_of_ofAddress? found
  rw [Region.ofAddress?_of_le_last found lo (by simp only [Region.room] at *; omega)]
  rfl

theorem splitFrom_error {cursor stop offset g : Nat} (h : splitFrom cursor stop offset = .error g) :
    cursor ≤ g ∧ g < stop ∧ Region.ofAddress? g = none ∧
      ∀ x, cursor ≤ x → x < g → (Region.ofAddress? x).isSome := by
  fun_induction splitFrom cursor stop offset with
  | case1 cursor offset lt found =>
    simp only [Except.error.injEq] at h
    subst h
    exact ⟨le_rfl, lt, found, fun x lo hi => by omega⟩
  | case2 cursor offset lt r found take ih =>
    obtain ⟨lo, hi, gap, mapped⟩ := ih (Except.eq_error_of_map h)
    refine ⟨by omega, hi, gap, fun x lo' hi' => ?_⟩
    by_cases inside : x < cursor + take
    · exact Region.ofAddress?_isSome_of_le_room found (Nat.min_le_left _ _) lo' inside
    · exact mapped x (by omega) hi'
  | case3 => simp at h

theorem splitFrom_ok {cursor stop offset : Nat} :
    ∀ {segs : List Segment}, splitFrom cursor stop offset = .ok segs →
      ∀ x, cursor ≤ x → x < stop → (Region.ofAddress? x).isSome := by
  fun_induction splitFrom cursor stop offset with
  | case1 => simp
  | case2 cursor offset lt r found take =>
    rename_i ih
    intro segs h x lo hi
    obtain ⟨rest, split, -⟩ := Except.map_eq_ok h
    by_cases inside : x < cursor + take
    · exact Region.ofAddress?_isSome_of_le_room found (Nat.min_le_left _ _) lo inside
    · exact ih split x (by omega) hi
  | case3 cursor offset ge => intro segs h x lo hi; omega

/-- Within the address space, the split refuses an access exactly at its least gap address. -/
theorem segments_eq_error_iff {addr len g : Nat} (fits : addr + len ≤ 0x10000) :
    segments addr len = .error g ↔ firstGap addr len = some g := by
  rw [firstGap_eq_some_iff]
  constructor
  · intro h
    obtain ⟨lo, hi, gap, mapped⟩ := splitFrom_error h
    refine ⟨lo, hi, ?_, fun x lo' hi' => ?_⟩
    · exact (Region.ofAddress?_eq_none_iff.1 gap).resolve_right (by omega)
    · exact (Region.ofAddress?_isSome_iff (by omega)).1 (mapped x lo' hi')
  · rintro ⟨lo, hi, ingap, least⟩
    cases h : segments addr len with
    | error g' =>
      obtain ⟨lo', hi', gap', mapped'⟩ := splitFrom_error h
      have ingap' := (Region.ofAddress?_eq_none_iff.1 gap').resolve_right (by omega)
      -- both are the least gap address of the range
      rcases Nat.lt_trichotomy g g' with lt | rfl | gt
      · exact absurd ingap ((Region.ofAddress?_isSome_iff (by omega)).1 (mapped' g lo lt))
      · rfl
      · exact absurd ingap' (least g' lo' gt)
    | ok segs =>
      have := splitFrom_ok h g lo hi
      exact absurd ingap ((Region.ofAddress?_isSome_iff (by omega)).1 this)

theorem segments_eq_ok_iff {addr len : Nat} (fits : addr + len ≤ 0x10000) :
    (∃ segs, segments addr len = .ok segs) ↔ firstGap addr len = none := by
  constructor
  · rintro ⟨segs, h⟩
    rw [firstGap_eq_none_iff]
    exact fun x lo hi => (Region.ofAddress?_isSome_iff (by omega)).1 (splitFrom_ok h x lo hi)
  · intro none
    cases h : segments addr len with
    | error g =>
      rw [segments_eq_error_iff fits, none] at h
      cases h
    | ok segs => exact ⟨segs, rfl⟩

end NesMachine
