import NesMachine.Proofs.Ranges
/-!
# How an access is cut at region ends

`segments addr len` cuts the addresses `[addr, addr + len)` into pieces that each lie in one region.
Within the address space the cut is refused exactly at the least gap address the range touches
(`segments_eq_error_iff`); otherwise the pieces tile the range in order:

* `splitFrom_head`, `splitFrom_chain`, `splitFrom_total`: the pieces start at the cursor and follow
  one another, in memory and in the data, and their lengths add up to the range;
* `splitFrom_toEnd`: every piece but the last runs to its region's end;
* `Segment.regions_of_runs`: since only RAM ends where another region starts, a gap-free cut has
  one piece, or two: RAM then the picture-unit latches.
-/

namespace NesMachine

/-- Piece `t` starts where piece `s` ended, in memory and in the data. -/
def Segment.Follows (s t : Segment) : Prop :=
  t.addr = s.addr + s.len ∧ t.offset = s.offset + s.len

/-- What a cut of `len` bytes at `addr` promises: the pieces start at `addr` with the data's first
byte and follow one another, their lengths are positive and add up to `len`, each lies inside
the region it names, and every piece but the last runs to its region's end. -/
structure Segment.Split (addr len : Nat) (segs : List Segment) : Prop where
  first : ∃ s rest, segs = s :: rest ∧ s.addr = addr ∧ s.offset = 0
  chain : segs.IsChain Segment.Follows
  positive : ∀ s ∈ segs, 0 < s.len
  total : (segs.map Segment.len).sum = len
  inside : ∀ s ∈ segs, s.region.start ≤ s.addr ∧ s.addr + s.len ≤ s.region.last + 1
  toEnd : ∀ s ∈ segs.dropLast, s.addr + s.len = s.region.last + 1

/-! ## The loop, piece by piece -/

theorem splitFrom_of_le {cursor stop offset : Nat} (done : stop ≤ cursor) :
    splitFrom cursor stop offset = .ok [] := by
  rw [splitFrom, if_neg (by omega)]

theorem splitFrom_head {cursor stop offset : Nat} {s : Segment} {rest : List Segment}
    (h : splitFrom cursor stop offset = .ok (s :: rest)) : s.addr = cursor ∧ s.offset = offset := by
  fun_induction splitFrom cursor stop offset with
  | case1 => cases h
  | case2 cursor offset lt r found take =>
    obtain ⟨tail, -, eq⟩ := Except.map_eq_ok h
    cases eq
    exact ⟨rfl, rfl⟩
  | case3 => cases h

theorem splitFrom_ne_nil {cursor stop offset : Nat} {segs : List Segment} (lt : cursor < stop)
    (h : splitFrom cursor stop offset = .ok segs) : segs ≠ [] := by
  fun_induction splitFrom cursor stop offset with
  | case1 => cases h
  | case2 cursor offset lt r found take =>
    obtain ⟨tail, -, rfl⟩ := Except.map_eq_ok h
    exact List.cons_ne_nil _ _
  | case3 => omega

theorem splitFrom_chain {cursor stop offset : Nat} :
    ∀ {segs : List Segment}, splitFrom cursor stop offset = .ok segs → segs.IsChain Segment.Follows := by
  fun_induction splitFrom cursor stop offset with
  | case1 => intro segs h; cases h
  | case2 cursor offset lt r found take =>
    rename_i ih
    intro segs h
    obtain ⟨rest, split, rfl⟩ := Except.map_eq_ok h
    cases rest with
    | nil => exact .singleton _
    | cons t rest =>
      -- the next piece starts where the cursor moved to
      obtain ⟨addr, offset⟩ := splitFrom_head split
      exact .cons_cons ⟨addr, offset⟩ (ih split)
  | case3 => intro segs h; cases h; exact .nil

theorem splitFrom_total {cursor stop offset : Nat} :
    ∀ {segs : List Segment}, splitFrom cursor stop offset = .ok segs →
      (segs.map Segment.len).sum = stop - cursor := by
  fun_induction splitFrom cursor stop offset with
  | case1 => intro segs h; cases h
  | case2 cursor offset lt r found take =>
    rename_i ih
    intro segs h
    obtain ⟨rest, split, rfl⟩ := Except.map_eq_ok h
    have within : take ≤ stop - cursor := Nat.min_le_right _ _
    rw [List.map_cons, List.sum_cons, ih split]
    dsimp only
    omega
  | case3 cursor offset ge => intro segs h; cases h; simp; omega

theorem splitFrom_toEnd {cursor stop offset : Nat} :
    ∀ {segs : List Segment}, splitFrom cursor stop offset = .ok segs →
      ∀ s ∈ segs.dropLast, s.addr + s.len = s.region.last + 1 := by
  fun_induction splitFrom cursor stop offset with
  | case1 => intro segs h; cases h
  | case2 cursor offset lt r found take =>
    rename_i ih
    intro segs h s mem
    obtain ⟨rest, split, rfl⟩ := Except.map_eq_ok h
    cases rest with
    | nil => simp at mem
    | cons t rest =>
      rw [List.dropLast_cons_cons, List.mem_cons] at mem
      rcases mem with rfl | later
      · -- a piece followed by another stopped short of the end, so at its region's end
        have short : cursor + take < stop := by
          by_contra reached
          rw [splitFrom_of_le (by omega)] at split
          cases split
        have within := Region.le_last_of_ofAddress? found
        simp only [take, Region.room] at short ⊢
        omega
      · exact ih split s later
  | case3 => intro segs h; cases h; simp

/-! ## At most two pieces -/

/-- Only RAM ends where another region starts: `$2000`, the first picture-unit latch. The other
regions end before a gap or at the top of the address space. -/
theorem Region.next_of_ofAddress? {r r' : Region} (h : Region.ofAddress? (r.last + 1) = some r') :
    r = .ram ∧ r' = .ppuRegisters := by
  cases r <;> simp [Region.last, Region.ofAddress?] at h ⊢
  exact h.symm

/-- Pieces that follow one another, each starting in its region and all but the last running to
its region's end, are one piece, or RAM then the picture-unit latches. -/
theorem Segment.regions_of_runs {segs : List Segment} (chain : segs.IsChain Segment.Follows)
    (starts : ∀ s ∈ segs, Region.ofAddress? s.addr = some s.region)
    (toEnd : ∀ s ∈ segs.dropLast, s.addr + s.len = s.region.last + 1) :
    segs.length ≤ 1 ∨ segs.map Segment.region = [.ram, .ppuRegisters] := by
  match segs, chain with
  | [], _ => simp
  | [_], _ => simp
  | s :: t :: rest, chain =>
    rw [List.isChain_cons_cons] at chain
    -- the second piece starts just past the first one's region
    have next : Region.ofAddress? (s.region.last + 1) = some t.region := by
      rw [← toEnd s (by simp), ← chain.1.1]
      exact starts t (by simp)
    obtain ⟨ramFirst, ppuNext⟩ := Region.next_of_ofAddress? next
    cases rest with
    | nil => simp [ramFirst, ppuNext]
    | cons u rest =>
      -- a third piece would start just past the latches, which no region holds
      have third : Region.ofAddress? (t.region.last + 1) = some u.region := by
        rw [← toEnd t (by simp), ← (List.isChain_cons_cons.1 chain.2).1.1]
        exact starts u (by simp)
      exact absurd (Region.next_of_ofAddress? third).1 (by simp [ppuNext])

/-! ## The cut of an access -/

/-- Within the address space, cutting a non-empty access is refused exactly at the least gap
address it touches; an access that touches no gap is cut into pieces that start at its first
address, follow one another, lie each inside its region and add up to the whole, every piece but
the last running to its region's end: one piece, or two, RAM then the picture-unit latches. -/
theorem segments_split (addr len : Nat) (nonempty : 0 < len) (fits : addr + len ≤ 0x10000) :
    (∀ g, segments addr len = .error g ↔
      addr ≤ g ∧ g < addr + len ∧ InGap g ∧ ∀ x, addr ≤ x → x < g → ¬ InGap x) ∧
    ((∀ x, addr ≤ x → x < addr + len → ¬ InGap x) →
      ∃ segs, segments addr len = .ok segs ∧ Segment.Split addr len segs ∧
        (segs.length = 1 ∨ segs.map Segment.region = [.ram, .ppuRegisters])) := by
  refine ⟨fun g => (segments_eq_error_iff fits).trans firstGap_eq_some_iff, fun mapped => ?_⟩
  obtain ⟨segs, split⟩ := (segments_eq_ok_iff fits).2 (firstGap_eq_none_iff.2 mapped)
  have placed := splitFrom_fits split
  have runs := splitFrom_toEnd split
  have count := Segment.regions_of_runs (splitFrom_chain split) (fun s mem => (placed s mem).region) runs
  obtain ⟨s, rest, rfl⟩ := List.exists_cons_of_ne_nil (splitFrom_ne_nil (by omega) split)
  have head := splitFrom_head split
  have total := splitFrom_total split
  refine ⟨s :: rest, split, ⟨⟨s, rest, rfl, head⟩, splitFrom_chain split,
    fun t mem => (placed t mem).nonempty, by omega, fun t mem => ⟨?_, (placed t mem).toEnd⟩, runs⟩, ?_⟩
  · exact (Region.ofAddress?_eq_some_iff.1 (placed t mem).region).1
  · simpa using count

/-- Four bytes at `$1FFE` fit the address space and are cut where RAM ends. -/
theorem cut_across_ram_end :
    0 < 4 ∧ 0x1FFE + 4 ≤ 0x10000 ∧
      ((∀ g, segments 0x1FFE 4 = .error g ↔
        0x1FFE ≤ g ∧ g < 0x1FFE + 4 ∧ InGap g ∧ ∀ x, 0x1FFE ≤ x → x < g → ¬ InGap x) ∧
      ((∀ x, 0x1FFE ≤ x → x < 0x1FFE + 4 → ¬ InGap x) →
        ∃ segs, segments 0x1FFE 4 = .ok segs ∧ Segment.Split 0x1FFE 4 segs ∧
          (segs.length = 1 ∨ segs.map Segment.region = [.ram, .ppuRegisters]))) :=
  ⟨by decide, by decide, segments_split 0x1FFE 4 (by decide) (by decide)⟩

end NesMachine
