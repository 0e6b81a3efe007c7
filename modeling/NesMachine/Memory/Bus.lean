import NesMachine.Memory.Error
/-!
# The bus

The bus owns every byte the processor and the loader can reach: work RAM, the two latch windows,
the cartridge window and the picture unit's graphics memory. All traffic goes through `read` and
`write`, which check an access whole before touching anything, so a refused access leaves the bus
as it was.

* `read addr width` takes `width` bytes little-endian. It is refused when it runs past `$FFFF`,
  when `addr` lies in a gap, or when it runs past the end of the region holding `addr`, in that
  order.
* `write addr data` is refused when `data` is empty, when it runs past `$FFFF`, or at the first
  gap address it touches, in that order; otherwise each byte lands in the cell its address decodes
  to, in order, so a run may cross from RAM into the picture latches and a RAM run longer than
  `$800` bytes leaves each cell with the last byte aimed at it.
-/

namespace NesMachine

/-- Every byte behind the address space, and graphics memory. -/
structure Bus where
  ram : Vector UInt8 0x800
  ppuLatches : Vector UInt8 8
  apuLatches : Vector UInt8 24
  cartridge : Vector UInt8 0xBFE0
  graphics : Vector UInt8 0x4000

namespace Bus

/-- A bus with every byte zero. -/
def empty : Bus where
  ram := Vector.replicate _ 0
  ppuLatches := Vector.replicate _ 0
  apuLatches := Vector.replicate _ 0
  cartridge := Vector.replicate _ 0
  graphics := Vector.replicate _ 0

/-- The byte a cell holds. -/
def get (b : Bus) : Cell → UInt8
  | .ram i => b.ram.get i
  | .ppuLatch i => b.ppuLatches.get i
  | .apuLatch i => b.apuLatches.get i
  | .cartridge i => b.cartridge.get i

/-- The bus with one cell replaced. -/
def set (b : Bus) : Cell → UInt8 → Bus
  | .ram i, v => { b with ram := b.ram.set i.val v i.isLt }
  | .ppuLatch i, v => { b with ppuLatches := b.ppuLatches.set i.val v i.isLt }
  | .apuLatch i, v => { b with apuLatches := b.apuLatches.set i.val v i.isLt }
  | .cartridge i, v => { b with cartridge := b.cartridge.set i.val v i.isLt }

/-- The byte at a mapped address; 0 in a gap, where no access reaches. -/
def byteAt (b : Bus) (addr : Nat) : UInt8 :=
  match Cell.ofAddress? addr with
  | some c => b.get c
  | none => 0

/-- Stores one byte at an address; a gap address changes nothing. -/
def poke (b : Bus) (addr : Nat) (v : UInt8) : Bus :=
  match Cell.ofAddress? addr with
  | some c => b.set c v
  | none => b

/-- Stores `data` byte by byte from `addr` upwards. -/
def pokeAll (b : Bus) (addr : Nat) : List UInt8 → Bus
  | [] => b
  | v :: rest => (b.poke addr v).pokeAll (addr + 1) rest

/-- The little-endian value of `width` bytes from `addr`. -/
def valueAt (b : Bus) (addr : Nat) : Nat → Nat
  | 0 => 0
  | width + 1 => (b.byteAt addr).toNat + 256 * b.valueAt (addr + 1) width

/-- Why a read of `width` bytes at `addr` is refused, if it is. -/
def readCheck (addr : UInt16) (width : Nat) : Option BusError :=
  if addr.toNat + width > 0x10000 then some (.outOfRange addr width)
  else match Region.ofAddress? addr.toNat with
    | none => some (.unmapped addr)
    | some r => if width > r.room addr.toNat then some (.regionOverflow r addr width) else none

/-- Reads `width` bytes at `addr` as a little-endian number. -/
def read (b : Bus) (addr : UInt16) (width : Nat) : Except BusError Nat :=
  match readCheck addr width with
  | some e => .error e
  | none => .ok (b.valueAt addr.toNat width)

/-- Reads one byte. -/
def readByte (b : Bus) (addr : UInt16) : Except BusError UInt8 :=
  (b.read addr 1).map Nat.toUInt8

/-- A one-byte read fails only in a gap, where it reports the address itself; elsewhere it
answers the byte the address decodes to. -/
theorem readByte_eq (b : Bus) (addr : UInt16) :
    b.readByte addr = match Region.ofAddress? addr.toNat with
      | none => .error (.unmapped addr)
      | some _ => .ok (b.byteAt addr.toNat) := by
  have fits : ¬ (0x10000 < addr.toNat + 1) := by have := addr.toNat_lt; omega
  unfold readByte read readCheck
  cases found : Region.ofAddress? addr.toNat with
  | none => simp [fits, Except.map]
  | some r =>
    have := Region.le_last_of_ofAddress? found
    have room : ¬ (1 > r.room addr.toNat) := by simp [Region.room]; omega
    simp [fits, room, valueAt, Except.map]

theorem readByte_error {b : Bus} {addr : UInt16} {e : BusError}
    (h : b.readByte addr = .error e) : e = .unmapped addr := by
  rw [readByte_eq] at h
  split at h <;> simp_all

theorem readByte_ok {b : Bus} {addr : UInt16} {v : UInt8}
    (h : b.readByte addr = .ok v) : v = b.byteAt addr.toNat := by
  rw [readByte_eq] at h
  split at h <;> simp_all

/-- Reads a little-endian word. -/
def readWord (b : Bus) (addr : UInt16) : Except BusError UInt16 :=
  (b.read addr 2).map Nat.toUInt16

/-- How a write of `len` bytes at `addr` splits into regions, or why it is refused. -/
def writePlan (addr : UInt16) (len : Nat) : Except BusError (List Segment) :=
  if len = 0 then .error (.emptyWrite addr)
  else if addr.toNat + len > 0x10000 then .error (.outOfRange addr len)
  else
    match segments addr.toNat len with
    | .error g => .error (.unmapped g.toUInt16)
    | .ok segs => .ok segs

/-- Stores each segment's share of `data`. -/
def storeSegments (b : Bus) (data : List UInt8) : List Segment → Bus
  | [] => b
  | s :: rest => (b.pokeAll s.addr ((data.drop s.offset).take s.len)).storeSegments data rest

/-- Writes `data` from `addr` upwards, all of it or nothing. -/
def write (b : Bus) (addr : UInt16) (data : List UInt8) : Except BusError Bus :=
  match writePlan addr data.length with
  | .error e => .error e
  | .ok segs => .ok (b.storeSegments data segs)

/-- Writes one byte. -/
def writeByte (b : Bus) (addr : UInt16) (v : UInt8) : Except BusError Bus :=
  b.write addr [v]

/-- The `width` little-endian bytes of `value`; bits above `8 * width` are dropped. -/
def leBytes : Nat → Nat → List UInt8
  | 0, _ => []
  | width + 1, value => (value % 256).toUInt8 :: leBytes width (value / 256)

/-- Writes a number as `width` little-endian bytes. -/
def writeValue (b : Bus) (addr : UInt16) (width value : Nat) : Except BusError Bus :=
  b.write addr (leBytes width value)

/-- Copies `data` into graphics memory from `offset`. The upload is refused, with nothing
copied, when it is empty or runs past the end of graphics memory. -/
def writeGraphics (b : Bus) (offset : Nat) (data : List UInt8) : Except BusError Bus :=
  if data.isEmpty || offset + data.length > graphicsSize then
    .error (.graphicsOverflow offset data.length graphicsSize)
  else
    let graphics := (data.zipIdx offset).foldl (fun g p => g.setIfInBounds p.2 p.1) b.graphics
    .ok { b with graphics := graphics }

/-- Clears RAM and both latch windows; the cartridge window and graphics memory stay. -/
def reset (b : Bus) : Bus :=
  { b with
    ram := Vector.replicate _ 0
    ppuLatches := Vector.replicate _ 0
    apuLatches := Vector.replicate _ 0 }

/-- The graphics byte at an address of the picture unit's 14-bit address space. -/
def graphicsAt (b : Bus) (addr : UInt16) : UInt8 :=
  b.graphics.toArray.getD (addr.toNat % 0x4000) 0

/-- The little-endian word held by the cartridge window at `addr`, `addr + 1`. -/
def vectorAt (b : Bus) (addr : Nat) : UInt16 :=
  (b.valueAt addr 2).toUInt16

end Bus

end NesMachine
