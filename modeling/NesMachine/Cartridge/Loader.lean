import NesMachine.Cartridge.Image
import NesMachine.Memory.Bus
/-!
# Installing a cartridge

There is no mapper: the program ROM is copied flat to `$8000`, and a single 16 KiB unit is copied
to `$C000` as well so that the vectors at the top of the address space come from it. The
character ROM goes to graphics memory from offset 0. Both size checks run before anything is
copied, so an installation either completes or leaves the bus untouched.
-/

namespace NesMachine

/-- Where the program ROM goes. -/
def prgLoadAddress : UInt16 := 0x8000

/-- Where a single 16 KiB program unit is copied a second time. -/
def prgMirrorAddress : UInt16 := 0xC000

namespace Bus

/-- Installs a cartridge's ROM. -/
def install (b : Bus) (c : Cartridge) : Except CartridgeError Bus :=
  if prgLoadAddress.toNat + c.prg.size > 0x10000 then
    .error (.bus (.outOfRange prgLoadAddress c.prg.size))
  else if c.chr.size > graphicsSize then
    .error (.bus (.graphicsOverflow 0 c.chr.size graphicsSize))
  else do
    let prg := c.prg.toList
    let b ←
      if prg.isEmpty then pure b
      else do
        let b ← (b.write prgLoadAddress prg).mapError .bus
        if prg.length = prgUnit then (b.write prgMirrorAddress prg).mapError .bus else pure b
    if c.chr.isEmpty then pure b else (b.writeGraphics 0 c.chr.toList).mapError .bus

/-- Reads an image and installs it; the bus is untouched when either step fails. -/
def loadImage (b : Bus) (data : ByteArray) : Except CartridgeError (Bus × Cartridge) := do
  let c ← Cartridge.ofInes data
  let b ← b.install c
  pure (b, c)

/-- Reads a cartridge file's contents and installs it. -/
def loadFile (b : Bus) (contents : Except ReadFailure ByteArray) :
    Except CartridgeError (Bus × Cartridge) := do
  let c ← Cartridge.ofFile contents
  let b ← b.install c
  pure (b, c)

end Bus

end NesMachine
