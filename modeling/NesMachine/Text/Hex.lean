/-!
# Hexadecimal and binary text

The machine reports addresses as `$` followed by four upper-case hex digits, operands with two,
status bytes as eight binary digits, and byte strings as lower-case hex pairs. Everything here
is a left-padded rendering of `Nat.toDigits`, so each width law reduces to the padding.
-/

namespace NesMachine.Text

/-- Pads a digit list on the left with `'0'` up to `width` characters; longer lists stay whole. -/
def padDigits (width : Nat) (digits : List Char) : String :=
  String.ofList (List.replicate (width - digits.length) '0' ++ digits)

/-- `n` in upper-case hexadecimal with at least `width` digits. -/
def hexUpper (width n : Nat) : String :=
  padDigits width ((Nat.toDigits 16 n).map Char.toUpper)

/-- `n` in binary with at least `width` digits. -/
def binary (width n : Nat) : String :=
  padDigits width (Nat.toDigits 2 n)

/-- Two lower-case hex digits for one byte. -/
def byteHex (b : UInt8) : String :=
  padDigits 2 (Nat.toDigits 16 b.toNat)

/-- A byte string as lower-case hex pairs with no separators. -/
def bytesHex (bytes : List UInt8) : String :=
  String.join (bytes.map byteHex)

/-- An address as written in messages and listings: `$` and four upper-case hex digits. -/
def addressText (addr : Nat) : String :=
  "$" ++ hexUpper 4 addr

/-- The value of one hex digit of either case. -/
def hexDigitValue? (c : Char) : Option Nat :=
  if '0' ≤ c ∧ c ≤ '9' then some (c.toNat - '0'.toNat)
  else if 'a' ≤ c ∧ c ≤ 'f' then some (c.toNat - 'a'.toNat + 10)
  else if 'A' ≤ c ∧ c ≤ 'F' then some (c.toNat - 'A'.toNat + 10)
  else none

/-- Reads hex pairs of either case; an odd digit count or a non-digit gives `none`. -/
def parseHexPairs : List Char → Option (List UInt8)
  | [] => some []
  | hi :: lo :: rest => do
    let h ← hexDigitValue? hi
    let l ← hexDigitValue? lo
    let tail ← parseHexPairs rest
    pure ((h * 16 + l).toUInt8 :: tail)
  | [_] => none

/-- Reads a hex byte string such as `"a9Ff"`. -/
def parseHex (s : String) : Option (List UInt8) :=
  parseHexPairs s.toList

end NesMachine.Text
