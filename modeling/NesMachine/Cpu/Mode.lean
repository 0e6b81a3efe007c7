/-!
# Addressing modes

An addressing mode says how an instruction's operand bytes designate its data. The mode alone
fixes the instruction's length, and the opcode's bit fields (`aaabbbcc`) alone fix the mode the
decoder assigns, documented opcode or not, so an undefined opcode still skips the right number
of operand bytes.
-/

namespace NesMachine

/-- How an instruction's operand bytes designate its data. -/
inductive Mode where
  | implied
  | accumulator
  | immediate
  | zeroPage
  | zeroPageX
  | zeroPageY
  | relative
  | absolute
  | absoluteX
  | absoluteY
  | indirect
  | indirectX
  | indirectY
  deriving DecidableEq, Repr

namespace Mode

/-- Every mode, in the order the machine lists them. -/
def all : List Mode :=
  [implied, accumulator, immediate, zeroPage, zeroPageX, zeroPageY, relative, absolute,
    absoluteX, absoluteY, indirect, indirectX, indirectY]

/-- Instruction length in bytes, opcode included: one, two or three. -/
def size : Mode → Nat
  | implied | accumulator => 1
  | immediate | zeroPage | zeroPageX | zeroPageY | relative | indirectX | indirectY => 2
  | absolute | absoluteX | absoluteY | indirect => 3

theorem size_cases (m : Mode) : m.size = 1 ∨ m.size = 2 ∨ m.size = 3 := by
  cases m <;> simp [size]

/-- The name the machine prints for a mode. -/
def name : Mode → String
  | implied => "Implied"
  | accumulator => "Accumulator"
  | immediate => "Immediate"
  | zeroPage => "ZeroPage"
  | zeroPageX => "ZeroPageX"
  | zeroPageY => "ZeroPageY"
  | relative => "Relative"
  | absolute => "Absolute"
  | absoluteX => "AbsoluteX"
  | absoluteY => "AbsoluteY"
  | indirect => "Indirect"
  | indirectX => "IndirectX"
  | indirectY => "IndirectY"

/-- The mode a printed name stands for. -/
def ofName? (s : String) : Option Mode :=
  all.find? (fun m => m.name == s)

/-- The mode the decoder assigns to an opcode from its `aaabbbcc` fields. Rows `aaa = 4, 5`
(the X-register loads and stores) index with Y where the others index with X. -/
def nominal (opcode : UInt8) : Mode :=
  let aaa := opcode.toNat / 32
  let bbb := opcode.toNat / 4 % 8
  let cc := opcode.toNat % 4
  let yRow := aaa == 4 || aaa == 5
  match cc with
  | 0 =>
    match bbb with
    | 0 =>
      if opcode == 0x20 then absolute
      else if opcode == 0x00 || opcode == 0x40 || opcode == 0x60 then implied
      else immediate
    | 1 => zeroPage
    | 2 | 6 => implied
    | 3 => if opcode == 0x6C then indirect else absolute
    | 4 => relative
    | 5 => zeroPageX
    | _ => absoluteX
  | 2 =>
    match bbb with
    | 0 => if aaa ≥ 4 then immediate else implied
    | 1 => zeroPage
    | 2 => if aaa < 4 then accumulator else implied
    | 3 => absolute
    | 4 | 6 => implied
    | 5 => if yRow then zeroPageY else zeroPageX
    | _ => if yRow then absoluteY else absoluteX
  | _ =>
    match bbb with
    | 0 => indirectX
    | 1 => zeroPage
    | 2 => immediate
    | 3 => absolute
    | 4 => indirectY
    | 5 => if cc == 3 && yRow then zeroPageY else zeroPageX
    | 6 => absoluteY
    | _ => if cc == 3 && yRow then absoluteY else absoluteX

end Mode

/-- A branch target: the displacement, read as a signed byte, added to the program counter
after the branch has been fetched, modulo 2^16. -/
def relativeTarget (pc : UInt16) (disp : UInt8) : UInt16 :=
  if disp < 0x80 then pc + disp.toUInt16 else pc + disp.toUInt16 - 0x100

end NesMachine
