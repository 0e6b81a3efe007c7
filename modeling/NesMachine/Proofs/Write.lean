import NesMachine.Proofs.MemoryMap
/-!
# What a bus write does

`Bus.write` checks the whole range first and then hands each region its share of the bytes.
Seen from outside, that is the simplest thing a write could do: refuse an empty write, then one
that runs past `$FFFF`, then one that touches a gap, at the least gap address; otherwise store
the bytes one at a time in increasing order, each in the cell its address decodes to.

* `Bus.storeSegments_splitFrom`: storing the pieces of a split is storing the bytes in order;
* `Bus.get_pokeAll`: after storing a run, each cell holds the last byte aimed at it, and a cell
  nothing aimed at keeps its byte;
* `Bus.write_eq`: the refusals in their order, and otherwise the bytes stored in order;
* `Bus.write_outcome`: that, and what a successful write leaves in each cell.
-/

namespace NesMachine

namespace Bus

/-! ## Cells of the bus -/

theorem vector_get_eq {α : Type} {n : Nat} (xs : Vector α n) (i : Fin n) :
    xs.get i = xs[(i : Nat)] :=
  rfl

@[simp] theorem get_set_self (b : Bus) (c : Cell) (v : UInt8) : (b.set c v).get c = v := by
  cases c <;> simp [get, set, vector_get_eq]

theorem get_set_of_ne (b : Bus) {c c' : Cell} (v : UInt8) (h : c' ≠ c) :
    (b.set c v).get c' = b.get c' := by
  cases c <;> cases c' <;> simp_all [get, set, vector_get_eq, Fin.ext_iff, Vector.getElem_set] <;>
    omega

@[simp] theorem set_graphics (b : Bus) (c : Cell) (v : UInt8) :
    (b.set c v).graphics = b.graphics := by
  cases c <;> rfl

theorem get_poke (b : Bus) (addr : Nat) (v : UInt8) (c : Cell) :
    (b.poke addr v).get c = if Cell.ofAddress? addr = some c then v else b.get c := by
  unfold poke
  cases found : Cell.ofAddress? addr with
  | none => simp
  | some c' =>
    by_cases same : c' = c
    · subst same; simp
    · simp [same, get_set_of_ne b v (Ne.symm same)]

@[simp] theorem poke_graphics (b : Bus) (addr : Nat) (v : UInt8) :
    (b.poke addr v).graphics = b.graphics := by
  unfold poke; split <;> simp

/-! ## Runs of bytes -/

@[simp] theorem pokeAll_nil (b : Bus) (addr : Nat) : b.pokeAll addr [] = b := rfl

@[simp] theorem pokeAll_cons (b : Bus) (addr : Nat) (v : UInt8) (rest : List UInt8) :
    b.pokeAll addr (v :: rest) = (b.poke addr v).pokeAll (addr + 1) rest := rfl

theorem pokeAll_append (b : Bus) (addr : Nat) (xs ys : List UInt8) :
    b.pokeAll addr (xs ++ ys) = (b.pokeAll addr xs).pokeAll (addr + xs.length) ys := by
  induction xs generalizing b addr with
  | nil => rfl
  | cons v xs ih =>
    simp only [List.cons_append, pokeAll_cons, ih, List.length_cons]
    congr 1
    omega

@[simp] theorem pokeAll_graphics (b : Bus) (addr : Nat) (data : List UInt8) :
    (b.pokeAll addr data).graphics = b.graphics := by
  induction data generalizing b addr with
  | nil => rfl
  | cons v rest ih => simp [ih]

/-- After a run is stored, a cell either was aimed at by no byte of the run and holds what it
held, or holds the byte of the last position aimed at it. -/
theorem get_pokeAll (b : Bus) (addr : Nat) (data : List UInt8) (c : Cell) :
    ((b.pokeAll addr data).get c = b.get c ∧
        ∀ i < data.length, Cell.ofAddress? (addr + i) ≠ some c) ∨
      ∃ i, ∃ hi : i < data.length, Cell.ofAddress? (addr + i) = some c ∧
        (∀ j, i < j → j < data.length → Cell.ofAddress? (addr + j) ≠ some c) ∧
        (b.pokeAll addr data).get c = data[i] := by
  induction data generalizing b addr with
  | nil => exact .inl ⟨rfl, fun i hi => absurd hi (Nat.not_lt_zero i)⟩
  | cons v rest ih =>
    have shift : ∀ k, addr + 1 + k = addr + (k + 1) := fun k => by omega
    rcases ih (b.poke addr v) (addr + 1) with ⟨kept, unaimed⟩ | ⟨i, hi, aimed, last, value⟩
    · -- no later byte reaches `c`: the first byte decides
      by_cases first : Cell.ofAddress? addr = some c
      · refine .inr ⟨0, by simp, by simpa using first, fun j lo hj => ?_, ?_⟩
        · obtain ⟨k, rfl⟩ := Nat.exists_eq_add_of_lt lo
          simpa [shift] using unaimed k (by simp at hj; omega)
        · simp [kept, get_poke, first]
      · refine .inl ⟨by simp [kept, get_poke, first], fun i hi => ?_⟩
        cases i with
        | zero => simpa using first
        | succ k => simpa [shift] using unaimed k (by simp at hi; omega)
    · -- a later byte reaches `c`: it is still the last one
      refine .inr ⟨i + 1, by simp; omega, by simpa [shift] using aimed, fun j lo hj => ?_, ?_⟩
      · obtain ⟨k, rfl⟩ := Nat.exists_eq_add_of_lt (show 0 < j by omega)
        simpa [shift] using last k (by omega) (by simp at hj; omega)
      · simpa using value

/-! ## Writes -/

/-- Storing the pieces of a split, each with its share of the data, stores the data's stretch
`[offset, offset + (stop - cursor))` from `cursor` on, byte by byte. -/
theorem storeSegments_splitFrom (b : Bus) (data : List UInt8) {cursor stop offset : Nat}
    {segs : List Segment} (h : splitFrom cursor stop offset = .ok segs)
    (fits : offset + (stop - cursor) ≤ data.length) :
    b.storeSegments data segs = b.pokeAll cursor ((data.drop offset).take (stop - cursor)) := by
  fun_induction splitFrom cursor stop offset generalizing b segs with
  | case1 => simp at h
  | case2 cursor offset lt r found take ih =>
    obtain ⟨rest, split, rfl⟩ := Except.map_eq_ok h
    have within : take ≤ stop - cursor := Nat.min_le_right _ _
    have first : ((data.drop offset).take take).length = take := by simp; omega
    -- the first piece's bytes, then the rest's, make up the whole stretch
    have pieces : (data.drop offset).take (stop - cursor) =
        (data.drop offset).take take ++ (data.drop (offset + take)).take (stop - (cursor + take)) := by
      rw [show stop - cursor = take + (stop - (cursor + take)) by omega, List.take_add,
        List.drop_drop]
    rw [storeSegments, ih _ split (by omega), pieces, pokeAll_append, first]
  | case3 cursor offset ge =>
    simp only [Except.ok.injEq] at h
    subst h
    have : stop - cursor = 0 := by omega
    simp [this, storeSegments]

/-- A write is refused when the data is empty, then when it runs past `$FFFF`, then at the least
gap address it touches; otherwise it stores the bytes in order. -/
theorem write_eq (b : Bus) (a : UInt16) (d : List UInt8) :
    b.write a d =
      if d = [] then .error (.emptyWrite a)
      else if 0x10000 < a.toNat + d.length then .error (.outOfRange a d.length)
      else match firstGap a.toNat d.length with
        | some g => .error (.unmapped g.toUInt16)
        | none => .ok (b.pokeAll a.toNat d) := by
  by_cases empty : d = []
  · subst empty; rfl
  have len : d.length ≠ 0 := by simpa using empty
  by_cases beyond : 0x10000 < a.toNat + d.length
  · simp [write, writePlan, empty, len, beyond]
  have fits : a.toNat + d.length ≤ 0x10000 := by omega
  cases gap : firstGap a.toNat d.length with
  | some g =>
    have split := (segments_eq_error_iff fits).2 gap
    simp [write, writePlan, empty, len, beyond, split]
  | none =>
    obtain ⟨segs, split⟩ := (segments_eq_ok_iff fits).2 gap
    have stored := storeSegments_splitFrom b d split (by omega)
    simp only [Nat.add_sub_cancel_left, List.drop_zero, List.take_length] at stored
    simp [write, writePlan, empty, len, beyond, split, stored]

/-- A write that succeeds stored its bytes in order. -/
theorem eq_pokeAll_of_write {b b' : Bus} {a : UInt16} {d : List UInt8} (h : b.write a d = .ok b') :
    b' = b.pokeAll a.toNat d := by
  rw [write_eq] at h
  split_ifs at h
  split at h
  · cases h
  · exact (Except.ok.inj h).symm

/-- A one-byte write outside the gaps stores its byte. -/
theorem writeByte_of_not_inGap (b : Bus) {a : UInt16} (v : UInt8) (mapped : ¬ InGap a.toNat) :
    b.writeByte a v = .ok (b.poke a.toNat v) := by
  have none : firstGap a.toNat 1 = none :=
    firstGap_eq_none_iff.2 (fun x lo hi => by rwa [show x = a.toNat by omega])
  have fits : ¬ 0x10000 < a.toNat + 1 := by have := a.toNat_lt; omega
  rw [writeByte, write_eq]
  simp [none, fits]

/-- A write is refused when the data is empty, then when it runs past `$FFFF`, then at the least
gap address it touches; otherwise every byte lands in the cell its address decodes to, in order.
So a write that crosses a region end is split and every piece lands, a RAM run longer than `$800`
bytes leaves each physical byte with the last value aimed at it, and no other byte, graphics
memory included, changes. -/
theorem write_outcome (b : Bus) (a : UInt16) (d : List UInt8) :
    b.write a d =
      (if d = [] then .error (.emptyWrite a)
      else if 0x10000 < a.toNat + d.length then .error (.outOfRange a d.length)
      else match firstGap a.toNat d.length with
        | some g => .error (.unmapped g.toUInt16)
        | none => .ok (b.pokeAll a.toNat d)) ∧
    ∀ b', b.write a d = .ok b' → b'.graphics = b.graphics ∧
      ∀ c : Cell, (b'.get c = b.get c ∧ ∀ i < d.length, Cell.ofAddress? (a.toNat + i) ≠ some c) ∨
        ∃ i, ∃ hi : i < d.length, Cell.ofAddress? (a.toNat + i) = some c ∧
          (∀ j, i < j → j < d.length → Cell.ofAddress? (a.toNat + j) ≠ some c) ∧
          b'.get c = d[i] := by
  refine ⟨write_eq b a d, fun b' h => ?_⟩
  obtain rfl := eq_pokeAll_of_write h
  exact ⟨pokeAll_graphics b a.toNat d, get_pokeAll b a.toNat d⟩

/-- Four bytes from `$1FFE` cross from RAM into the picture latches and all land. -/
theorem write_across_ram_end :
    Bus.empty.write 0x1FFE [1, 2, 3, 4] = .ok (Bus.empty.pokeAll 0x1FFE [1, 2, 3, 4]) ∧
      (Bus.empty.pokeAll 0x1FFE [1, 2, 3, 4]).graphics = Bus.empty.graphics := by
  obtain ⟨outcome, stored⟩ := write_outcome Bus.empty 0x1FFE [1, 2, 3, 4]
  have written : Bus.empty.write 0x1FFE [1, 2, 3, 4] = .ok (Bus.empty.pokeAll 0x1FFE [1, 2, 3, 4]) := by
    rw [outcome]; rfl
  exact ⟨written, (stored _ written).1⟩

end Bus

end NesMachine
