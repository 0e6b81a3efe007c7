import NesMachine.Cartridge.Header
/-!
# Cartridges from iNES images

A cartridge is a header with its program and character ROM. Reading an image is all or nothing:
after the header come the optional trainer (skipped), the program ROM and the character ROM, and
a section that runs past the end of the image is reported with the bytes that do remain. Bytes
after the character ROM are ignored.
-/

namespace NesMachine

/-- A parsed cartridge. -/
structure Cartridge where
  header : Header
  prg : ByteArray
  chr : ByteArray

namespace Cartridge

/-- The `len` bytes of `data` at `offset`, or the section's truncation error. -/
def take (data : ByteArray) (offset len : Nat) (part : Section) : Except CartridgeError ByteArray :=
  if offset + len ≤ data.size then .ok (data.extract offset (offset + len))
  else .error (.truncated part len (data.size - offset))

/-- Reads a whole iNES image. -/
def ofInes (data : ByteArray) : Except CartridgeError Cartridge := do
  let header ← Header.parse data
  let offset ←
    if header.hasTrainer then do
      let _ ← take data headerLen trainerLen .trainer
      pure (headerLen + trainerLen)
    else pure headerLen
  let prg ← take data offset header.prgLen .prgRom
  let chr ← take data (offset + header.prgLen) header.chrLen .chrRom
  pure ⟨header, prg, chr⟩

/-- Reads an image from a file's contents, or reports why the file could not be read. -/
def ofFile (contents : Except ReadFailure ByteArray) : Except CartridgeError Cartridge :=
  match contents with
  | .ok data => ofInes data
  | .error failure => .error (.io failure)

/-- The cartridge as a record: `Cartridge { mapper_id: 0, mirroring: Horizontal, ... }`. -/
def recordText (c : Cartridge) : String :=
  "Cartridge \x7b mapper_id: " ++ toString c.header.mapperId.toNat ++
    ", mirroring: " ++ c.header.mirroring.name ++
    ", battery: " ++ toString c.header.batteryBacked ++
    ", has_trainer: " ++ toString c.header.hasTrainer ++
    ", prg_rom_len: " ++ toString c.prg.size ++
    ", chr_rom_len: " ++ toString c.chr.size ++ " \x7d"

end Cartridge

end NesMachine
