import NesMachine.Memory.Error
/-!
# Cartridge headers and their errors

An iNES image opens with a 16-byte header: the magic `NES` and `$1A`, the program ROM size in
16 KiB units, the character ROM size in 8 KiB units, and two flag bytes; bytes 8 to 15 are not
read. The flag bytes give the nametable mirroring, battery-backed RAM, a 512-byte trainer before
the ROM, the mapper number (a nibble from each) and the NES 2.0 marker.
-/

namespace NesMachine

/-- Why a cartridge file could not be read. -/
inductive ReadFailure where
  | notFound
  | permissionDenied
  | isDirectory
  /-- Any other failure, with the system's description. -/
  | other (description : String)
  deriving DecidableEq, Repr

/-- The system's description of a read failure. -/
def ReadFailure.message : ReadFailure → String
  | .notFound => "No such file or directory (os error 2)"
  | .permissionDenied => "Permission denied (os error 13)"
  | .isDirectory => "Is a directory (os error 21)"
  | .other description => description

/-- The three parts of an image body that can come up short. -/
inductive Section where
  | trainer
  | prgRom
  | chrRom
  deriving DecidableEq, Repr

/-- The section's name in messages. -/
def Section.name : Section → String
  | .trainer => "trainer"
  | .prgRom => "PRG ROM"
  | .chrRom => "CHR ROM"

/-- Why an image could not be read or installed. -/
inductive CartridgeError where
  /-- The file could not be read. -/
  | io (failure : ReadFailure)
  /-- Fewer than 16 bytes. -/
  | tooShort (len : Nat)
  /-- The first four bytes are not `NES` and `$1A`. -/
  | badMagic (magic : List UInt8)
  /-- A section needs more bytes than remain after its offset. -/
  | truncated (part : Section) (needed available : Nat)
  /-- The ROM does not fit the console's memory. -/
  | bus (e : BusError)
  deriving DecidableEq, Repr

namespace CartridgeError

/-- The sentence that describes the error. -/
def message : CartridgeError → String
  | io failure => "failed to read cartridge file: " ++ failure.message
  | tooShort len => "image is " ++ toString len ++ " bytes, too small for the 16-byte iNES header"
  | badMagic magic =>
    "invalid iNES magic [" ++ ", ".intercalate (magic.map (fun b => Text.hexUpper 2 b.toNat)) ++
      "] (expected 4E 45 53 1A)"
  | truncated part needed available =>
    "image truncated: " ++ part.name ++ " needs " ++ toString needed ++ " bytes, " ++
      toString available ++ " available"
  | bus e => "cartridge does not fit the console: " ++ e.message

/-- The errors beneath this one, outermost first: a read failure or a bus error is wrapped. -/
def causes : CartridgeError → List String
  | io failure => [failure.message]
  | bus e => [e.message]
  | _ => []

end CartridgeError

/-- Size of the iNES header. -/
def headerLen : Nat := 16

/-- Size of a trainer. -/
def trainerLen : Nat := 512

/-- One program ROM unit: 16 KiB. -/
def prgUnit : Nat := 16384

/-- One character ROM unit: 8 KiB. -/
def chrUnit : Nat := 8192

/-- The magic that opens every image: `NES` and `$1A`. -/
def inesMagic : List UInt8 := [0x4E, 0x45, 0x53, 0x1A]

/-- How the nametables are mirrored. -/
inductive Mirroring where
  | horizontal
  | vertical
  | fourScreen
  deriving DecidableEq, Repr

/-- The name the machine prints for a mirroring. -/
def Mirroring.name : Mirroring → String
  | .horizontal => "Horizontal"
  | .vertical => "Vertical"
  | .fourScreen => "FourScreen"

/-- The four header bytes the machine reads. -/
structure Header where
  prgUnits : UInt8
  chrUnits : UInt8
  flags6 : UInt8
  flags7 : UInt8
  deriving DecidableEq, Repr

namespace Header

/-- Bytes of program ROM. -/
def prgLen (h : Header) : Nat := h.prgUnits.toNat * prgUnit

/-- Bytes of character ROM. -/
def chrLen (h : Header) : Nat := h.chrUnits.toNat * chrUnit

/-- The mapper number: high nibble from flags 7, low nibble from the top of flags 6. -/
def mapperId (h : Header) : UInt8 := (h.flags7 &&& (0xF0 : UInt8)) ||| (h.flags6 >>> (4 : UInt8))

/-- Four-screen when bit 3 of flags 6 is set, else vertical when bit 0 is, else horizontal. -/
def mirroring (h : Header) : Mirroring :=
  if h.flags6 &&& 0x08 != 0 then .fourScreen
  else if h.flags6 &&& 0x01 != 0 then .vertical
  else .horizontal

/-- Bit 1 of flags 6. -/
def batteryBacked (h : Header) : Bool := h.flags6 &&& 0x02 != 0

/-- Bit 2 of flags 6: a 512-byte trainer precedes the program ROM. -/
def hasTrainer (h : Header) : Bool := h.flags6 &&& 0x04 != 0

/-- Bits 2 and 3 of flags 7 read `10`. -/
def isNes2 (h : Header) : Bool := (h.flags7 &&& 0x0C) == 0x08

/-- Reads the header at the start of an image. -/
def parse (data : ByteArray) : Except CartridgeError Header :=
  if data.size < headerLen then .error (.tooShort data.size)
  else
    let byte (i : Nat) : UInt8 := data[i]?.getD 0
    let magic := [byte 0, byte 1, byte 2, byte 3]
    if magic != inesMagic then .error (.badMagic magic)
    else .ok ⟨byte 4, byte 5, byte 6, byte 7⟩

end Header

end NesMachine
