import NesMachine.Cartridge.Header
import NesMachine.Cpu.Execute
/-!
# Building images and machines

Builders for in-memory iNES images and for a machine that is ready to run a program. Program ROM
bytes are filled with `$AA` and character ROM bytes with `$CC`, so loaded data can be told apart
from untouched memory. The builders refuse inputs they cannot honour, with a `BuildFailure`.
-/

namespace NesMachine

/-- Why a builder refused its input. -/
inductive BuildFailure where
  /-- An NROM program longer than one 16 KiB unit. -/
  | programTooLarge
  /-- Vectors go only into program blocks of one or two units. -/
  | unsupportedPrgLength (len : Nat)
  /-- A program that does not fit the bus from `$8000`. -/
  | programDoesNotFit (e : BusError)
  deriving DecidableEq, Repr

/-- The text a refused build reports. -/
def BuildFailure.message : BuildFailure → String
  | .programTooLarge => "program must fit one 16 KiB unit"
  | .unsupportedPrgLength len => "unsupported PRG length " ++ toString len
  | .programDoesNotFit e => "called `Result::unwrap()` on an `Err` value: " ++ e.recordText

/-- Appends `n` copies of a byte. -/
def appendFill (b : ByteArray) (v : UInt8) : Nat → ByteArray
  | 0 => b
  | n + 1 => appendFill (b.push v) v n

/-- Writes a word little-endian at `i` and `i + 1`; out-of-range bytes are dropped. -/
def setWordAt (b : ByteArray) (i : Nat) (w : UInt16) : ByteArray :=
  (b.set! i w.toUInt8).set! (i + 1) (w >>> 8).toUInt8

/-- An iNES image: the magic, the unit counts (each modulo 256), the flags and eight zero
bytes, then the optional trainer, `prgUnits` units of `$AA` and `chrUnits` units of `$CC`. -/
def buildInes (prgUnits chrUnits : Nat) (flags6 flags7 : UInt8) (trainer : Option ByteArray) :
    ByteArray :=
  let header := ByteArray.mk (#[0x4E, 0x45, 0x53, 0x1A, prgUnits.toUInt8, chrUnits.toUInt8,
    flags6, flags7] ++ Array.replicate 8 0)
  let withTrainer := match trainer with
    | some t => header ++ t
    | none => header
  appendFill (appendFill withTrainer 0xAA (prgUnits * prgUnit)) 0xCC (chrUnits * chrUnit)

/-- Writes the NMI, reset and IRQ vectors, little-endian, into the last six bytes of a program
block of one or two units. -/
def setVectors (prg : ByteArray) (reset nmi irq : UInt16) : Except BuildFailure ByteArray :=
  if prg.size = prgUnit ∨ prg.size = 2 * prgUnit then
    let base := prg.size - 6
    .ok (setWordAt (setWordAt (setWordAt prg base nmi) (base + 2) reset) (base + 4) irq)
  else .error (.unsupportedPrgLength prg.size)

/-- A one-unit NROM image whose program ROM starts with `prg` and whose three vectors all point
at `reset` (default `$8000`). -/
def buildNrom (prg : ByteArray) (chrUnits : Nat) (reset : Option UInt16) : Except BuildFailure ByteArray := do
  if prg.size > prgUnit then throw .programTooLarge
  let image := buildInes 1 chrUnits 0 0 none
  let bank := prg.copySlice 0 (image.extract headerLen (headerLen + prgUnit)) 0 prg.size
  let r := reset.getD 0x8000
  let bank ← setVectors bank r r r
  pure (bank.copySlice 0 image headerLen prgUnit)

/-- A reset machine whose program sits at `$8000`, with the reset vector pointing there. -/
def Machine.withProgram (prg : List UInt8) : Except BuildFailure Machine := do
  let bus ← if prg.isEmpty then pure Bus.empty
    else (Bus.empty.write 0x8000 prg).mapError .programDoesNotFit
  let bus ← (bus.writeValue resetVector 2 0x8000).mapError .programDoesNotFit
  pure ⟨Cpu.reset bus, bus⟩

end NesMachine
