import NesMachine.Text.Hex
/-!
# The memory map

The 16-bit address space holds four disjoint regions: 2 KiB of work RAM seen eight times over
`$0000-$1FFF`, eight picture-unit latches at `$2000-$2007`, twenty-four audio and input latches
at `$4000-$4017`, and the cartridge window `$4020-$FFFF`. The two gaps between them,
`$2008-$3FFF` and `$4018-$401F`, belong to no region.

Each mapped address decodes to one physical `Cell`; `Cell.ofAddress?` is that decoding and is
what every bus access goes through, byte by byte.
-/

namespace NesMachine

/-- A mapped region of the address space. -/
inductive Region where
  | ram
  | ppuRegisters
  | apuIoRegisters
  | cartridge
  deriving DecidableEq, Repr

namespace Region

/-- First address of the region. -/
def start : Region → Nat
  | ram => 0x0000
  | ppuRegisters => 0x2000
  | apuIoRegisters => 0x4000
  | cartridge => 0x4020

/-- Last address of the region. -/
def last : Region → Nat
  | ram => 0x1FFF
  | ppuRegisters => 0x2007
  | apuIoRegisters => 0x4017
  | cartridge => 0xFFFF

/-- Number of addresses in the region. -/
def len (r : Region) : Nat :=
  r.last - r.start + 1

/-- The name the machine prints for a region. -/
def name : Region → String
  | ram => "Ram"
  | ppuRegisters => "PpuRegisters"
  | apuIoRegisters => "ApuIoRegisters"
  | cartridge => "Cartridge"

/-- The region's description in messages. -/
def label : Region → String
  | ram => "RAM"
  | ppuRegisters => "PPU register"
  | apuIoRegisters => "APU/IO register"
  | cartridge => "cartridge"

/-- The region with its bounds, as messages show it: `RAM ($0000-$1FFF)`. -/
def display (r : Region) : String :=
  r.label ++ " (" ++ Text.addressText r.start ++ "-" ++ Text.addressText r.last ++ ")"

/-- The region holding an address, if any. -/
def ofAddress? (addr : Nat) : Option Region :=
  if addr < 0x2000 then some ram
  else if addr < 0x2008 then some ppuRegisters
  else if addr < 0x4000 then none
  else if addr < 0x4018 then some apuIoRegisters
  else if addr < 0x4020 then none
  else if addr < 0x10000 then some cartridge
  else none

/-- How many bytes from `addr` up to the region's end, `addr` included. -/
def room (r : Region) (addr : Nat) : Nat :=
  r.last + 1 - addr

end Region

/-- The number of physical RAM bytes. -/
def ramSize : Nat := 0x800

/-- The physical RAM byte an address of the RAM region reaches. -/
def mirrorIndex (addr : Nat) : Nat := addr % ramSize

/-- The number of bytes behind the cartridge window. -/
def cartridgeSize : Nat := 0xBFE0

/-- The size of graphics memory. -/
def graphicsSize : Nat := 0x4000

/-- One physical byte of the machine that an address can reach. -/
inductive Cell where
  | ram (i : Fin 0x800)
  | ppuLatch (i : Fin 8)
  | apuLatch (i : Fin 24)
  | cartridge (i : Fin 0xBFE0)
  deriving DecidableEq, Repr

/-- The cell an address decodes to: RAM modulo `$800`, a latch by its distance from the
window's start, the cartridge window by its distance from `$4020`; `none` in a gap. -/
def Cell.ofAddress? (addr : Nat) : Option Cell :=
  if h : addr < 0x2000 then
    some (.ram ⟨addr % 0x800, Nat.mod_lt _ (by decide)⟩)
  else if h : addr < 0x2008 then
    some (.ppuLatch ⟨addr - 0x2000, by omega⟩)
  else if addr < 0x4000 then none
  else if h : addr < 0x4018 then
    some (.apuLatch ⟨addr - 0x4000, by omega⟩)
  else if addr < 0x4020 then none
  else if h : addr < 0x10000 then
    some (.cartridge ⟨addr - 0x4020, by omega⟩)
  else none

/-- An address a region holds is at most the region's last address, so the room from it is
at least one byte. -/
theorem Region.le_last_of_ofAddress? {addr : Nat} {r : Region}
    (h : Region.ofAddress? addr = some r) : addr ≤ r.last := by
  unfold Region.ofAddress? at h
  repeat' split at h
  all_goals first
    | (cases h; simp only [Region.last]; omega)
    | exact absurd h (by simp)

/-- A piece of an access that lies in one region: `len` addresses from `addr`, carrying the
data bytes from position `offset` on. -/
structure Segment where
  region : Region
  addr : Nat
  offset : Nat
  len : Nat
  deriving DecidableEq, Repr

/-- Splits the addresses `[cursor, stop)` at region ends, numbering the data from `offset`. A
piece runs to its region's end or to `stop`, whichever comes first; the first address that lies
in a gap stops the split. -/
def splitFrom (cursor stop offset : Nat) : Except Nat (List Segment) :=
  if cursor < stop then
    match _h : Region.ofAddress? cursor with
    | none => .error cursor
    | some r =>
      let take := min (r.room cursor) (stop - cursor)
      (Segment.mk r cursor offset take :: ·) <$> splitFrom (cursor + take) stop (offset + take)
  else .ok []
termination_by stop - cursor
decreasing_by
  have := Region.le_last_of_ofAddress? _h
  simp only [Region.room]
  omega

/-- The segments of an access of `len` bytes at `addr`, or the first gap address it touches. -/
def segments (addr len : Nat) : Except Nat (List Segment) :=
  splitFrom addr (addr + len) 0

end NesMachine
