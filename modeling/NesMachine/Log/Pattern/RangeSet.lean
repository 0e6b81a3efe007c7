/-!
# Sets of characters and bytes as ranges

A class in a pattern stands for a set of characters, or of bytes outside Unicode mode. A
`RangeSet` holds such a set as closed ranges in increasing order, none touching the next, and
remembers whether the set is known to be closed under case folding (`folded`).

The operations follow the matcher's own: a union with an empty set or with a set of the very
same ranges changes nothing, an intersection with an empty set is empty and folded, and
otherwise a result is folded when both operands were. Characters skip the surrogate code points,
so the character after `0xD7FF` is `0xE000`; two ranges either side of that gap stay apart.
-/

namespace NesMachine.Log

/-- What a set's points are: characters or bytes. -/
inductive Domain where
  | chars
  | bytes
  deriving DecidableEq, Repr

/-- The last point of a domain. -/
def Domain.top : Domain → Nat
  | .chars => 0x10FFFF
  | .bytes => 0xFF

/-- The point after `n`: characters step over the surrogates. -/
def Domain.succ (d : Domain) (n : Nat) : Nat :=
  if d == .chars && n == 0xD7FF then 0xE000 else n + 1

/-- The point before `n`: characters step over the surrogates. -/
def Domain.pred (d : Domain) (n : Nat) : Nat :=
  if d == .chars && n == 0xE000 then 0xD7FF else n - 1

/-- A range from two bounds in either order. -/
def mkRange (a b : Nat) : Nat × Nat :=
  if a ≤ b then (a, b) else (b, a)

/-- Whether two ranges overlap or touch as numbers. -/
def touches (r s : Nat × Nat) : Bool :=
  max r.1 s.1 ≤ min r.2 s.2 + 1

/-- Ranges sorted, with overlapping and touching ranges merged. -/
def canonicalize (rs : List (Nat × Nat)) : List (Nat × Nat) :=
  let sorted := rs.mergeSort fun a b => a.1 < b.1 || (a.1 == b.1 && a.2 ≤ b.2)
  (sorted.foldl (fun acc r =>
    match acc with
    | last :: more =>
      if touches last r then (min last.1 r.1, max last.2 r.2) :: more else r :: last :: more
    | [] => [r]) []).reverse

/-- A set of characters or bytes. -/
structure RangeSet where
  ranges : List (Nat × Nat)
  folded : Bool
  deriving DecidableEq, Repr

/-- The empty set, which is folded. -/
def RangeSet.empty : RangeSet :=
  ⟨[], true⟩

/-- The set of some ranges; only an empty one is known to be folded. -/
def RangeSet.ofRanges (rs : List (Nat × Nat)) : RangeSet :=
  ⟨canonicalize rs, rs.isEmpty⟩

/-- The union of two sets. -/
def RangeSet.union (a b : RangeSet) : RangeSet :=
  if b.ranges.isEmpty || a.ranges == b.ranges then a
  else ⟨canonicalize (a.ranges ++ b.ranges), a.folded && b.folded⟩

/-- A set with one more range. -/
def RangeSet.push (a : RangeSet) (r : Nat × Nat) : RangeSet :=
  a.union (RangeSet.ofRanges [r])

/-- The common part of two ranges. -/
def rangeInter (r s : Nat × Nat) : Option (Nat × Nat) :=
  if max r.1 s.1 ≤ min r.2 s.2 then some (max r.1 s.1, min r.2 s.2) else none

/-- The points of both sets. -/
def RangeSet.inter (a b : RangeSet) : RangeSet :=
  if a.ranges.isEmpty then a
  else if b.ranges.isEmpty then RangeSet.empty
  else ⟨a.ranges.flatMap (fun r => b.ranges.filterMap (rangeInter r)), a.folded && b.folded⟩

/-- The parts of the range from `lo` to `hi` outside the ranges `bs`, which are in order. -/
def rangeMinus (d : Domain) (lo hi : Nat) : List (Nat × Nat) → List (Nat × Nat)
  | [] => [(lo, hi)]
  | (bl, bh) :: rest =>
    if bh < lo then rangeMinus d lo hi rest
    else if hi < bl then [(lo, hi)]
    else
      let left := if lo < bl then [(lo, d.pred bl)] else []
      if hi ≤ bh then left else left ++ rangeMinus d (d.succ bh) hi rest

/-- The points of the first set outside the second. -/
def RangeSet.diff (d : Domain) (a b : RangeSet) : RangeSet :=
  if a.ranges.isEmpty || b.ranges.isEmpty then a
  else ⟨a.ranges.flatMap (fun r => rangeMinus d r.1 r.2 b.ranges), a.folded && b.folded⟩

/-- The points of exactly one of two sets. -/
def RangeSet.symmDiff (d : Domain) (a b : RangeSet) : RangeSet :=
  RangeSet.diff d (a.union b) (a.inter b)

/-- The gaps between ranges in order, from `prev` on. -/
def gapsAfter (d : Domain) (prev : Nat) : List (Nat × Nat) → List (Nat × Nat)
  | [] => []
  | r :: rest => mkRange (d.succ prev) (d.pred r.1) :: gapsAfter d r.2 rest

/-- The ranges outside a list of ranges in order. -/
def complementRanges (d : Domain) : List (Nat × Nat) → List (Nat × Nat)
  | [] => [(0, d.top)]
  | first :: rest =>
    let lastHi := (rest.getLast?.getD first).2
    (if 0 < first.1 then [(0, d.pred first.1)] else []) ++ gapsAfter d first.2 rest ++
      (if lastHi < d.top then [(d.succ lastHi, d.top)] else [])

/-- The points outside a set; the set of everything is folded. -/
def RangeSet.negate (d : Domain) (a : RangeSet) : RangeSet :=
  if a.ranges.isEmpty then ⟨[(0, d.top)], true⟩
  else ⟨complementRanges d a.ranges, a.folded⟩

/-- The other cases of the ASCII letters among some bytes. -/
def asciiCaseMates (rs : List (Nat × Nat)) : List (Nat × Nat) :=
  rs.flatMap fun r =>
    (match rangeInter r (0x61, 0x7A) with
      | some s => [(s.1 - 32, s.2 - 32)]
      | none => []) ++
    (match rangeInter r (0x41, 0x5A) with
      | some s => [(s.1 + 32, s.2 + 32)]
      | none => [])

/-- A set of bytes closed under ASCII case folding. -/
def RangeSet.foldBytes (a : RangeSet) : RangeSet :=
  if a.folded then a else ⟨canonicalize (a.ranges ++ asciiCaseMates a.ranges), true⟩

/-- Whether a character set needs case folding that only Unicode tables could give: it holds a
character and is not known to be folded. -/
def RangeSet.needsFolding (a : RangeSet) : Bool :=
  !a.folded && !a.ranges.isEmpty

/-- Whether every point of a set is ASCII. -/
def RangeSet.isAscii (a : RangeSet) : Bool :=
  a.ranges.all (·.2 ≤ 0x7F)

end NesMachine.Log
