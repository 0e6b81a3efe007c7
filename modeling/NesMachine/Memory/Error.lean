import NesMachine.Memory.Map
/-!
# Bus errors

Why a single bus access was refused. A refused access changes nothing; the error carries what a
message needs.
-/

namespace NesMachine

/-- Why a bus access was refused. -/
inductive BusError where
  /-- A write with no data. -/
  | emptyWrite (addr : UInt16)
  /-- `addr + len` runs past the top of the address space. -/
  | outOfRange (addr : UInt16) (len : Nat)
  /-- The address lies in a gap of the memory map. -/
  | unmapped (addr : UInt16)
  /-- A read runs past the end of the region holding its first byte. -/
  | regionOverflow (region : Region) (addr : UInt16) (len : Nat)
  /-- An upload to graphics memory is empty or runs past its end. -/
  | graphicsOverflow (offset len capacity : Nat)
  deriving DecidableEq, Repr

namespace BusError

open Text

/-- The sentence that describes the error. -/
def message : BusError → String
  | emptyWrite addr => "empty write to " ++ addressText addr.toNat
  | outOfRange addr len =>
    "access of " ++ toString len ++ " byte(s) at " ++ addressText addr.toNat ++
      " exceeds the 16-bit address space"
  | unmapped addr => "unmapped address " ++ addressText addr.toNat
  | regionOverflow region addr len =>
    toString len ++ " byte(s) at " ++ addressText addr.toNat ++ " overflow the " ++
      region.display ++ " window"
  | graphicsOverflow offset len capacity =>
    toString len ++ " byte(s) at offset 0x" ++ hexUpper 4 offset ++
      " overflow graphics memory (" ++ toString capacity ++ " bytes)"

/-- The variant's name. -/
def variant : BusError → String
  | emptyWrite .. => "EmptyWrite"
  | outOfRange .. => "OutOfRange"
  | unmapped .. => "Unmapped"
  | regionOverflow .. => "RegionOverflow"
  | graphicsOverflow .. => "GraphicsOverflow"

/-- The error as a record, fields in declaration order: `OutOfRange { addr: 32768, len: 4 }`. -/
def recordText (e : BusError) : String :=
  let fields : List (String × String) :=
    match e with
    | emptyWrite addr => [("addr", toString addr.toNat)]
    | outOfRange addr len => [("addr", toString addr.toNat), ("len", toString len)]
    | unmapped addr => [("addr", toString addr.toNat)]
    | regionOverflow region addr len =>
      [("region", region.name), ("addr", toString addr.toNat), ("len", toString len)]
    | graphicsOverflow offset len capacity =>
      [("offset", toString offset), ("len", toString len), ("capacity", toString capacity)]
  e.variant ++ " \x7b " ++ ", ".intercalate (fields.map (fun f => f.1 ++ ": " ++ f.2)) ++ " \x7d"

end BusError

end NesMachine
