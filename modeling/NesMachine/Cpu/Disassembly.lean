import NesMachine.Cpu.Table
import NesMachine.Text.Hex
/-!
# Disassembly

One instruction as assembly text: the mnemonic, then the operand in the mode's notation
(`LDA #$10`, `STA $0200,X`, `JMP ($02FF)`, `ORA ($20),Y`). A branch shows its target relative to
its own address (`BNE *-3`). Operand bytes beyond the end of the input read as 0, and an empty
input is the empty text.
-/

namespace NesMachine

open Text

/-- A branch's distance from its own address: the signed displacement plus the two bytes of
the branch. -/
def branchOffset (disp : UInt8) : Int :=
  (if disp < 0x80 then (disp.toNat : Int) else (disp.toNat : Int) - 256) + 2

/-- The operand text of a mode, from the first operand byte and the little-endian word. -/
def operandText (mode : Mode) (lo hi : UInt8) : String :=
  let byte := hexUpper 2 lo.toNat
  let word := hexUpper 4 (lo.toNat + 256 * hi.toNat)
  match mode with
  | .implied => ""
  | .accumulator => " A"
  | .immediate => " #$" ++ byte
  | .zeroPage => " $" ++ byte
  | .zeroPageX => " $" ++ byte ++ ",X"
  | .zeroPageY => " $" ++ byte ++ ",Y"
  | .relative =>
    let offset := branchOffset lo
    if offset < 0 then " *-" ++ toString (-offset) else " *+" ++ toString offset
  | .absolute => " $" ++ word
  | .absoluteX => " $" ++ word ++ ",X"
  | .absoluteY => " $" ++ word ++ ",Y"
  | .indirect => " ($" ++ word ++ ")"
  | .indirectX => " ($" ++ byte ++ ",X)"
  | .indirectY => " ($" ++ byte ++ "),Y"

/-- The instruction at the start of `bytes` as assembly text. -/
def disassemble : List UInt8 → String
  | [] => ""
  | opcode :: rest =>
    let entry := lookup opcode
    entry.mnemonic ++ operandText entry.mode (rest.getD 0 0) (rest.getD 1 0)

end NesMachine
