import NesMachine.Log.Pattern.Tree
import NesMachine.Log.Pattern.RangeSet
/-!
# What a pattern's parts stand for

Once a pattern reads, each part is given a meaning, left to right, under the flags in force at
it. The matcher behind a field filter has no Unicode tables, which makes some parts meaningless:

* a Unicode class `\p..` names no property it knows;
* the Perl classes `\d \s \w` and their negations have no Unicode meaning;
* with `i` set, a literal or a class would need Unicode case folding.

With `u` cleared the pattern speaks of bytes, and a part that could match a byte that is not
ASCII would let the pattern match text that is not UTF-8: `.`, a negated Perl or ASCII class,
a class that comes out not ASCII, or a `\x` escape of such a byte. A Unicode class, and a
character that is not ASCII inside a class, have no meaning there at all.

A class is worked out as a `RangeSet` of characters, or of bytes when `u` is cleared, so that
the class operators and negation can be followed. Each part of a class adds its set to the set
of the class around it, in reading order. Case folding of a class is refused only when its set
holds a character and is not known to be folded already: an empty class, a negated empty class
and what the class operators make of such sets pass. Giving the meaning also tells whether a
word assertion was met in Unicode mode, which the matcher cannot decide either.
-/

namespace NesMachine.Log

/-! ## Sets of the classes -/

/-- The bytes of an ASCII class. -/
def AsciiClass.ranges : AsciiClass → List (Nat × Nat)
  | .alnum => [(0x30, 0x39), (0x41, 0x5A), (0x61, 0x7A)]
  | .alpha => [(0x41, 0x5A), (0x61, 0x7A)]
  | .ascii => [(0x00, 0x7F)]
  | .blank => [(0x09, 0x09), (0x20, 0x20)]
  | .cntrl => [(0x00, 0x1F), (0x7F, 0x7F)]
  | .digit => [(0x30, 0x39)]
  | .graph => [(0x21, 0x7E)]
  | .lower => [(0x61, 0x7A)]
  | .print => [(0x20, 0x7E)]
  | .punct => [(0x21, 0x2F), (0x3A, 0x40), (0x5B, 0x60), (0x7B, 0x7E)]
  | .space => [(0x09, 0x0D), (0x20, 0x20)]
  | .upper => [(0x41, 0x5A)]
  | .word => [(0x30, 0x39), (0x41, 0x5A), (0x5F, 0x5F), (0x61, 0x7A)]
  | .xdigit => [(0x30, 0x39), (0x41, 0x46), (0x61, 0x66)]

/-- The bytes of a Perl class outside Unicode mode: its ASCII meaning. -/
def PerlClass.ranges : PerlClass → List (Nat × Nat)
  | .digit => AsciiClass.digit.ranges
  | .space => AsciiClass.space.ranges
  | .word => AsciiClass.word.ranges

/-- A set joined with another by a class operator. -/
def ClassOp.apply (d : Domain) : ClassOp → RangeSet → RangeSet → RangeSet
  | .intersection, a, b => a.inter b
  | .difference, a, b => RangeSet.diff d a b
  | .symmetricDifference, a, b => RangeSet.symmDiff d a b

/-! ## Flags in force -/

/-- The flags that bear on a part's meaning. -/
structure Mode where
  caseInsensitive : Bool := false
  unicode : Bool := true
  deriving DecidableEq, Repr

/-- What the points of a class are under these flags. -/
def Mode.domain (m : Mode) : Domain :=
  if m.unicode then .chars else .bytes

/-- The flags after a flag list. -/
def Mode.apply (m : Mode) (items : List FlagItem) : Mode :=
  { caseInsensitive := (flagState items .caseInsensitive).getD m.caseInsensitive,
    unicode := (flagState items .unicode).getD m.unicode }

/-! ## Unicode property names -/

/-- A property name in the form it is looked up in: ASCII only, lower case, without blanks,
`_` and `-`, and without a leading `is`, except that `isc` keeps it. -/
def normalizeName (name : String) : List Char :=
  let cs := name.toList
  let (strippedIs, body) := match cs with
    | a :: b :: rest =>
      if (a == 'i' || a == 'I') && (b == 's' || b == 'S') then (true, rest) else (false, cs)
    | _ => (false, cs)
  let kept := (body.filter fun c => c != ' ' && c != '_' && c != '-' && c.toNat < 0x80).map
    Char.toLower
  if strippedIs && kept == ['c'] then ['i', 's', 'c'] else kept

/-- Why a Unicode class has no meaning: the general-category names `cf`, `sc` and `lc` are looked
up as values, every other name as a property. -/
def UnicodeClass.errorKind : UnicodeClass → PatternErrorKind
  | .named n =>
    if [['c', 'f'], ['s', 'c'], ['l', 'c']].contains (normalizeName n) then
      .unicodePropertyValueNotFound
    else .unicodePropertyNotFound
  | _ => .unicodePropertyNotFound

/-! ## Meaning -/

/-- Giving a meaning, which may end in an error. -/
abbrev Meaning := Except PatternError

/-- Ends with an error. -/
def refuse {α : Type} (kind : PatternErrorKind) (span : Span) : Meaning α :=
  throw { kind, span }

/-- The byte a literal inside a class stands for outside Unicode mode. -/
def classLiteralByte (l : Literal) : Meaning Nat :=
  if l.c.toNat ≤ 0x7F then pure l.c.toNat
  else if l.byte then refuse .invalidUtf8 l.span
  else refuse .unicodeNotAllowed l.span

/-- A class set case folded when `i` is set, the part read from `span` being blamed when that
needs Unicode tables. -/
def foldCase (m : Mode) (span : Span) (s : RangeSet) : Meaning RangeSet :=
  if !m.caseInsensitive then pure s
  else if !m.unicode then pure s.foldBytes
  else if s.needsFolding then refuse .unicodeCaseUnavailable span
  else pure s

/-- A class, case folded and then negated as asked; outside Unicode mode it must come out
ASCII. -/
def foldNegate (m : Mode) (span : Span) (negated : Bool) (s : RangeSet) : Meaning RangeSet := do
  let folded ← foldCase m span s
  let result := if negated then folded.negate m.domain else folded
  if m.unicode || result.isAscii then pure result else refuse .invalidUtf8 span

/-- A Perl class outside Unicode mode: its ASCII bytes, which negation takes out of ASCII. -/
def perlBytes (span : Span) (negated : Bool) (kind : PerlClass) : Meaning RangeSet :=
  let s := RangeSet.ofRanges kind.ranges
  let s := if negated then s.negate .bytes else s
  if s.isAscii then pure s else refuse .invalidUtf8 span

mutual
/-- Adds the set a class part stands for to `acc`, the set of the class around it so far. -/
def ClassTree.addTo (m : Mode) (acc : RangeSet) : ClassTree → Meaning RangeSet
  | .empty _ => pure acc
  | .literal l =>
    if m.unicode then pure (acc.push (l.c.toNat, l.c.toNat))
    else do
      let b ← classLiteralByte l
      pure (acc.push (b, b))
  | .range _ lo hi =>
    if m.unicode then pure (acc.push (lo.c.toNat, hi.c.toNat))
    else do
      let a ← classLiteralByte lo
      let b ← classLiteralByte hi
      pure (acc.push (a, b))
  | .ascii s negated kind => do
    let x ← foldNegate m s negated (RangeSet.ofRanges kind.ranges)
    pure (acc.union x)
  | .unicode s _ kind =>
    if m.unicode then refuse kind.errorKind s else refuse .unicodeNotAllowed s
  | .perl s negated kind =>
    if m.unicode then refuse .unicodePerlClassNotFound s
    else do
      let x ← perlBytes s negated kind
      pure (acc.union x)
  | .bracketed s negated body => do
    let inner ← ClassTree.addTo m RangeSet.empty body
    let x ← foldNegate m s negated inner
    pure (acc.union x)
  | .union _ items => ClassTree.addAll m acc items
  | .op _ kind lhs rhs => do
    let a ← ClassTree.addTo m RangeSet.empty lhs
    let b ← ClassTree.addTo m RangeSet.empty rhs
    let b ← foldCase m rhs.span b
    let a ← foldCase m lhs.span a
    pure (acc.union (kind.apply m.domain a b))

/-- Adds the sets of class parts to `acc` in order. -/
def ClassTree.addAll (m : Mode) (acc : RangeSet) : List ClassTree → Meaning RangeSet
  | [] => pure acc
  | t :: ts => do
    let acc' ← ClassTree.addTo m acc t
    ClassTree.addAll m acc' ts
end

mutual
/-- Gives a part of a pattern its meaning under the flags `m`; answers the flags in force after
it, and whether it holds a word assertion in Unicode mode. -/
def Ast.meaning (m : Mode) : Ast → Meaning (Mode × Bool)
  | .empty _ => pure (m, false)
  | .flags _ items => pure (m.apply items, false)
  | .literal l =>
    if m.unicode then
      if m.caseInsensitive then refuse .unicodeCaseUnavailable l.span else pure (m, false)
    else if l.byte && 0x7F < l.c.toNat then refuse .invalidUtf8 l.span
    else pure (m, false)
  | .dot s => if m.unicode then pure (m, false) else refuse .invalidUtf8 s
  | .assertion _ kind => pure (m, m.unicode && kind.isWord)
  | .unicode s _ kind =>
    if m.unicode then refuse kind.errorKind s else refuse .unicodeNotAllowed s
  | .perl s negated kind =>
    if m.unicode then refuse .unicodePerlClassNotFound s
    else do
      let _ ← perlBytes s negated kind
      pure (m, false)
  | .bracketed s negated body => do
    let inner ← ClassTree.addTo m RangeSet.empty body
    let _ ← foldNegate m s negated inner
    pure (m, false)
  | .repetition _ a => Ast.meaning m a
  | .group _ groupFlags a => do
    let inside := match groupFlags with
      | some items => m.apply items
      | none => m
    let (_, word) ← Ast.meaning inside a
    pure (m, word)
  | .alternation _ as => Ast.listMeaning m as
  | .concat _ as => Ast.listMeaning m as

/-- Gives the parts of a list their meanings in order, the flags of each part holding for the
parts after it. -/
def Ast.listMeaning (m : Mode) : List Ast → Meaning (Mode × Bool)
  | [] => pure (m, false)
  | a :: as => do
    let (m1, w1) ← Ast.meaning m a
    let (m2, w2) ← Ast.listMeaning m1 as
    pure (m2, w1 || w2)
end

end NesMachine.Log
