import NesMachine.Text.Unicode
import NesMachine.Log.Pattern.Tree
/-!
# Reading a pattern into its tree

`parseAst` reads a pattern left to right and builds its tree, or stops at the first syntax error.
The reader is a state machine over a `Cursor`: the position reached, whether verbose mode is on,
the group names seen, and two stacks, one of the groups and alternations it is inside and one of
the bracketed classes and class operators it is inside. A `(` pushes onto the first stack and a
`)` pops it; a `[` pushes onto the second and a `]` pops it.

What the reader knows:

* groups `( )`, flag groups `(?flags)` and `(?flags: )`, named groups `(?P<name> )` and
  `(?<name> )`; look-around is refused, and a name may be used once;
* the repetitions `*`, `+`, `?` and `{m}`, `{m,}`, `{m,n}`, which need something before them to
  repeat;
* bracketed classes with ranges, nested classes, the class operators `&&`, `--`, `~~` and the
  ASCII classes `[:name:]`;
* escapes: escaped punctuation, `\d \s \w` and their negations, `\pX` and `\p{..}` classes,
  hexadecimal code points `\x.. \u.... \U........ \x{..}`, the control escapes `\a \f \t \n \r \v`
  and the assertions `\A \z \b \B \< \>` with `\b{start}`-style boundaries; an escaped digit is a
  backreference, which is refused;
* verbose mode (flag `x`), in which blanks are skipped and `#` starts a comment that runs to the
  end of the line.

Every loop is bounded by the pattern's length: each round reads at least one character.
-/

namespace NesMachine.Log

open Text

/-! ## The reader's state -/

/-- A concatenation being read: where it started and its parts so far. -/
structure Concat where
  span : Span
  asts : List Ast

/-- Adds a part at the end of a concatenation. -/
def Concat.push (c : Concat) (a : Ast) : Concat :=
  { c with asts := c.asts ++ [a] }

/-- A concatenation as a tree: nothing, its only part, or the concatenation itself. -/
def Concat.intoAst (c : Concat) : Ast :=
  match c.asts with
  | [] => .empty c.span
  | [a] => a
  | _ => .concat c.span c.asts

/-- A group whose `(` has been read: the stretch of the `(` and, for a non-capturing group, its
flags. -/
structure OpenGroup where
  span : Span
  flags : Option (List FlagItem)

/-- What the reader keeps for each group or alternation it is inside. -/
inductive GroupFrame where
  /-- The alternatives of an alternation read so far. -/
  | alternation (span : Span) (asts : List Ast)
  /-- An open group, the concatenation it interrupts, and the verbose mode outside it. -/
  | group (outer : Concat) (opened : OpenGroup) (verbose : Bool)

/-- A union of class items being read. -/
structure ClassUnion where
  span : Span
  items : List ClassTree

/-- Adds an item at the end of a union, stretching the union over it. -/
def ClassUnion.push (u : ClassUnion) (item : ClassTree) : ClassUnion :=
  { span := ⟨if u.items.isEmpty then item.span.start else u.span.start, item.span.stop⟩,
    items := u.items ++ [item] }

/-- A union as a class part: nothing, its only item, or the union itself. -/
def ClassUnion.intoItem (u : ClassUnion) : ClassTree :=
  match u.items with
  | [] => .empty u.span
  | [x] => x
  | _ => .union u.span u.items

/-- A bracketed class whose `[` has been read: its opening stretch and whether it is negated. -/
structure OpenClass where
  span : Span
  negated : Bool

/-- What the reader keeps for each bracketed class or class operator it is inside. -/
inductive ClassFrame where
  /-- An open class and the union of the class around it. -/
  | opened (outer : ClassUnion) (cls : OpenClass)
  /-- An operator whose left side has been read. -/
  | op (kind : ClassOp) (lhs : ClassTree)

/-- The reader's state. -/
structure Cursor where
  text : Array Char
  pos : Nat := 0
  verbose : Bool := false
  names : List (String × Span) := []
  groups : List GroupFrame := []
  classes : List ClassFrame := []

/-- A step of the reader. -/
abbrev Parse := StateT Cursor (Except PatternError)

/-! ## Moving through the pattern -/

/-- Stops reading with an error. -/
def fail {α : Type} (kind : PatternErrorKind) (span : Span) : Parse α :=
  throw { kind, span }

/-- The character at the position, if the pattern has not ended. -/
def current : Parse (Option Char) := do
  let s ← get
  pure s.text[s.pos]?

/-- The position. -/
def position : Parse Nat := do
  pure (← get).pos

/-- Whether the pattern has ended. -/
def atEnd : Parse Bool := do
  let s ← get
  pure (s.text.size ≤ s.pos)

/-- The empty stretch at the position. -/
def here : Parse Span := do
  let p ← position
  pure ⟨p, p⟩

/-- The stretch of the character at the position. -/
def charSpan : Parse Span := do
  let p ← position
  pure ⟨p, p + 1⟩

/-- Goes back or forth to a position. -/
def moveTo (p : Nat) : Parse Unit :=
  modify fun s => { s with pos := p }

/-- Steps over one character; answers whether a character follows. -/
def bump : Parse Bool := do
  let s ← get
  if s.text.size ≤ s.pos then pure false
  else
    set { s with pos := s.pos + 1 }
    pure (s.pos + 1 < s.text.size)

/-- The character after the current one. -/
def peek : Parse (Option Char) := do
  let s ← get
  if s.text.size ≤ s.pos then pure none else pure s.text[s.pos + 1]?

/-- A bound on the rounds of any loop of the reader. -/
def budget : Parse Nat := do
  pure ((← get).text.size + 1)

/-- Steps over a comment's text, up to and including the line feed that ends it. -/
def skipComment : Nat → Parse Unit
  | 0 => pure ()
  | fuel + 1 => do
    match ← current with
    | none => pure ()
    | some c =>
      let _ ← bump
      if c == '\n' then pure () else skipComment fuel

/-- Steps over blanks and comments. -/
def skipBlanks : Nat → Parse Unit
  | 0 => pure ()
  | fuel + 1 => do
    match ← current with
    | none => pure ()
    | some c =>
      if isWhiteSpace c then
        let _ ← bump
        skipBlanks fuel
      else if c == '#' then
        let _ ← bump
        skipComment (← budget)
        skipBlanks fuel
      else pure ()

/-- In verbose mode, steps over blanks and comments. -/
def bumpSpace : Parse Unit := do
  if (← get).verbose then skipBlanks (← budget)

/-- Steps over one character and then, in verbose mode, over blanks and comments; answers
whether a character follows. -/
def bumpAndBumpSpace : Parse Bool := do
  if !(← bump) then return false
  bumpSpace
  pure !(← atEnd)

/-- The first character of a text that is neither a blank nor the `#` of a first comment. -/
def scanBlanks : List Char → Bool → Option Char
  | [], _ => none
  | c :: cs, inComment =>
    if isWhiteSpace c then scanBlanks cs inComment
    else if !inComment && c == '#' then scanBlanks cs true
    else some c

/-- The character after the current one, looking past blanks in verbose mode. -/
def peekSpace : Parse (Option Char) := do
  let s ← get
  if !s.verbose then peek
  else if s.text.size ≤ s.pos then pure none
  else
    let rest := (s.text.extract (s.pos + 1) s.text.size).toList
    match scanBlanks rest false with
    | some c => pure (some c)
    | none => pure rest.head?

/-- Steps over a word when the pattern continues with it; answers whether it did. -/
def bumpIf (word : List Char) : Parse Bool := do
  let s ← get
  if (s.text.extract s.pos (s.pos + word.length)).toList == word then
    set { s with pos := s.pos + word.length }
    pure true
  else pure false

/-! ## Escapes and single characters -/

/-- What an escape or a single character outside a class stands for. -/
inductive Primitive where
  | literal (lit : Literal)
  | assertion (span : Span) (kind : Assertion)
  | dot (span : Span)
  | perl (span : Span) (negated : Bool) (kind : PerlClass)
  | unicode (span : Span) (negated : Bool) (kind : UnicodeClass)

/-- The stretch a primitive was read from. -/
def Primitive.span : Primitive → Span
  | .literal l => l.span
  | .assertion s _ | .dot s | .perl s _ _ | .unicode s _ _ => s

/-- A primitive as a tree. -/
def Primitive.intoAst : Primitive → Ast
  | .literal l => .literal l
  | .assertion s k => .assertion s k
  | .dot s => .dot s
  | .perl s n k => .perl s n k
  | .unicode s n k => .unicode s n k

/-- A primitive as a class item: assertions and `.` have no place in a class. -/
def Primitive.intoClassItem : Primitive → Parse ClassTree
  | .literal l => pure (.literal l)
  | .perl s n k => pure (.perl s n k)
  | .unicode s n k => pure (.unicode s n k)
  | p => fail .classEscapeInvalid p.span

/-- A primitive as the end of a class range, which must be a literal. -/
def Primitive.intoClassLiteral : Primitive → Parse Literal
  | .literal l => pure l
  | p => fail .classRangeLiteral p.span

/-- Characters with a meaning of their own, which an escape makes literal. -/
def isMetaCharacter (c : Char) : Bool :=
  List.contains
    ['\\', '.', '+', '*', '?', '(', ')', '|', '[', ']', '\x7b', '\x7d', '^', '$', '#', '&', '-', '~'] c

/-- Characters an escape may precede to stand for themselves: meta characters and ASCII
punctuation other than `<` and `>`. -/
def isEscapeable (c : Char) : Bool :=
  isMetaCharacter c || (c.toNat < 0x80 && !c.isAlphanum && c != '<' && c != '>')

/-- Whether a character is a hexadecimal digit. -/
def isHexDigit (c : Char) : Bool :=
  c.isDigit || ('a' ≤ c && c ≤ 'f') || ('A' ≤ c && c ≤ 'F')

/-- The value of hexadecimal digits. -/
def hexValue (ds : List Char) : Nat :=
  ds.foldl (fun acc c =>
    acc * 16 + (if c.isDigit then c.toNat - '0'.toNat
      else if 'a' ≤ c && c ≤ 'f' then c.toNat - 'a'.toNat + 10 else c.toNat - 'A'.toNat + 10)) 0

/-- Whether a number is the code point of a character. -/
def isScalar (n : Nat) : Bool :=
  n < 0xD800 || (0xE000 ≤ n && n ≤ 0x10FFFF)

/-- Reads `k` hexadecimal digits, the first at the position. -/
def hexRun : Nat → Bool → List Char → Parse (List Char)
  | 0, _, acc => pure acc.reverse
  | k + 1, first, acc => do
    if !first then
      if !(← bumpAndBumpSpace) then fail .escapeUnexpectedEof (← here)
    match ← current with
    | some c =>
      if isHexDigit c then hexRun k false (c :: acc)
      else fail .escapeHexInvalidDigit (← charSpan)
    | none => fail .escapeUnexpectedEof (← here)

/-- Reads the digits of a braced hexadecimal escape up to the closing brace. -/
def hexBraced : Nat → List Char → Parse (List Char)
  | 0, acc => pure acc.reverse
  | fuel + 1, acc => do
    if !(← bumpAndBumpSpace) then return acc.reverse
    match ← current with
    | some c =>
      if c == '\x7d' then pure acc.reverse
      else if isHexDigit c then hexBraced fuel (c :: acc)
      else fail .escapeHexInvalidDigit (← charSpan)
    | none => pure acc.reverse

/-- Reads a hexadecimal escape from its letter `x`, `u` or `U`: a fixed number of digits, or
digits in braces. Only two digits after `x` make a byte escape. -/
def parseHex (letter : Char) : Parse Literal := do
  if !(← bumpAndBumpSpace) then fail .escapeUnexpectedEof (← here)
  if (← current) == some '\x7b' then
    let bracePos ← position
    let ds ← hexBraced (← budget) []
    if ← atEnd then fail .escapeUnexpectedEof ⟨bracePos, ← position⟩
    let stop ← position
    let _ ← bumpAndBumpSpace
    if ds.isEmpty then fail .escapeHexEmpty ⟨bracePos, ← position⟩
    if !isScalar (hexValue ds) then fail .escapeHexInvalid ⟨bracePos + 1, stop⟩
    pure { span := ⟨bracePos + 1, ← position⟩, c := Char.ofNat (hexValue ds) }
  else
    let start ← position
    let digits := if letter == 'x' then 2 else if letter == 'u' then 4 else 8
    let ds ← hexRun digits true []
    let _ ← bumpAndBumpSpace
    let stop ← position
    if !isScalar (hexValue ds) then fail .escapeHexInvalid ⟨start, stop⟩
    pure { span := ⟨start, stop⟩, c := Char.ofNat (hexValue ds), byte := letter == 'x' }

/-- Reads the name of a braced Unicode class up to the closing brace. -/
def classNameChars : Nat → List Char → Parse (List Char)
  | 0, acc => pure acc.reverse
  | fuel + 1, acc => do
    if !(← bumpAndBumpSpace) then return acc.reverse
    match ← current with
    | some c => if c == '\x7d' then pure acc.reverse else classNameChars fuel (c :: acc)
    | none => pure acc.reverse

/-- Splits a text at the first occurrence of a separator. -/
def splitFirst (sep : List Char) : List Char → Option (List Char × List Char)
  | [] => if sep.isEmpty then some ([], []) else none
  | c :: cs =>
    if (c :: cs).take sep.length == sep then some ([], (c :: cs).drop sep.length)
    else (splitFirst sep cs).map fun (a, b) => (c :: a, b)

/-- How a braced class name names its property: `name!=value`, `name:value`, `name=value` or a
bare name. -/
def UnicodeClass.ofName (name : List Char) : UnicodeClass :=
  let pair (p : List Char × List Char) := UnicodeClass.namedValue (String.ofList p.1) (String.ofList p.2)
  match splitFirst ['!', '='] name with
  | some p => pair p
  | none =>
    match splitFirst [':'] name with
    | some p => pair p
    | none =>
      match splitFirst ['='] name with
      | some p => pair p
      | none => .named (String.ofList name)

/-- Reads a Unicode class from its letter `p` or `P`; answers the class's stretch from after the
letter. -/
def parseUnicodeClass : Parse (Span × Bool × UnicodeClass) := do
  let negated := (← current) == some 'P'
  if !(← bumpAndBumpSpace) then fail .escapeUnexpectedEof (← here)
  if (← current) == some '\x7b' then
    let start := (← position) + 1
    let name ← classNameChars (← budget) []
    if ← atEnd then fail .escapeUnexpectedEof (← here)
    let _ ← bump
    pure (⟨start, ← position⟩, negated, UnicodeClass.ofName name)
  else
    let start ← position
    let c := (← current).getD ' '
    if c == '\\' then fail .unicodeClassInvalid (← charSpan)
    let _ ← bumpAndBumpSpace
    pure (⟨start, ← position⟩, negated, .oneLetter c)

/-- Whether a character may stand in the name of a special word boundary. -/
def isBoundaryNameChar (c : Char) : Bool :=
  ('a' ≤ c && c ≤ 'z') || ('A' ≤ c && c ≤ 'Z') || c == '-'

/-- Reads the characters of a special word boundary's name. -/
def boundaryName : Nat → List Char → Parse (List Char)
  | 0, acc => pure acc.reverse
  | fuel + 1, acc => do
    match ← current with
    | some c =>
      if isBoundaryNameChar c then
        let _ ← bumpAndBumpSpace
        boundaryName fuel (c :: acc)
      else pure acc.reverse
    | none => pure acc.reverse

/-- Reads a special word boundary such as `\b{start}` at the brace after `\b`, whose backslash is
at `wbStart`. When the brace does not start a name, the reader goes back to it and answers
nothing: the brace is then a counted repetition of the `\b`. -/
def maybeSpecialWordBoundary (wbStart : Nat) : Parse (Option Assertion) := do
  let start ← position
  if !(← bumpAndBumpSpace) then
    fail .specialWordOrRepetitionUnexpectedEof ⟨wbStart, ← position⟩
  let startContents ← position
  if !isBoundaryNameChar ((← current).getD ' ') then
    moveTo start
    return none
  let name ← boundaryName (← budget) []
  if (← current) != some '\x7d' then fail .specialWordBoundaryUnclosed ⟨start, ← position⟩
  let stop ← position
  let _ ← bump
  match String.ofList name with
  | "start" => pure (some .wordStart)
  | "end" => pure (some .wordEnd)
  | "start-half" => pure (some .wordStartHalf)
  | "end-half" => pure (some .wordEndHalf)
  | _ => fail .specialWordBoundaryUnrecognized ⟨startContents, stop⟩

/-- The class a Perl class letter names, and whether it is negated. -/
def perlClassOf (c : Char) : Option (Bool × PerlClass) :=
  match c with
  | 'd' => some (false, .digit)
  | 'D' => some (true, .digit)
  | 's' => some (false, .space)
  | 'S' => some (true, .space)
  | 'w' => some (false, .word)
  | 'W' => some (true, .word)
  | _ => none

/-- The character a control escape letter stands for. -/
def controlEscape (c : Char) : Option Char :=
  match c with
  | 'a' => some '\x07'
  | 'f' => some '\x0C'
  | 't' => some '\t'
  | 'n' => some '\n'
  | 'r' => some '\r'
  | 'v' => some '\x0B'
  | _ => none

/-- The assertion a one-letter escape stands for, apart from `\b`. -/
def assertionEscape (c : Char) : Option Assertion :=
  match c with
  | 'A' => some .startText
  | 'z' => some .endText
  | 'B' => some .notWordBoundary
  | '<' => some .wordStart
  | '>' => some .wordEnd
  | _ => none

/-- Reads an escape from its backslash. -/
def parseEscape : Parse Primitive := do
  let start ← position
  if !(← bump) then fail .escapeUnexpectedEof ⟨start, ← position⟩
  let c := (← current).getD ' '
  if '0' ≤ c && c ≤ '9' then
    fail .unsupportedBackreference ⟨start, (← position) + 1⟩
  if c == 'x' || c == 'u' || c == 'U' then
    let lit ← parseHex c
    return .literal { lit with span := ⟨start, lit.span.stop⟩ }
  if c == 'p' || c == 'P' then
    let (span, negated, kind) ← parseUnicodeClass
    return .unicode ⟨start, span.stop⟩ negated kind
  match perlClassOf c with
  | some (negated, kind) =>
    let _ ← bump
    return .perl ⟨start, start + 2⟩ negated kind
  | none => pure ()
  let _ ← bump
  let span : Span := ⟨start, ← position⟩
  if isMetaCharacter c || isEscapeable c then
    return .literal { span, c }
  match controlEscape c with
  | some ch => return .literal { span, c := ch }
  | none => pure ()
  match assertionEscape c with
  | some kind => return .assertion span kind
  | none => pure ()
  if c == 'b' then
    if (← current) == some '\x7b' then
      match ← maybeSpecialWordBoundary start with
      | some kind => return .assertion ⟨start, ← position⟩ kind
      | none => pure ()
    return .assertion span .wordBoundary
  fail .escapeUnrecognized span

/-- Reads an escape or a single character outside a class. -/
def parsePrimitive : Parse Primitive := do
  match ← current with
  | some '\\' => parseEscape
  | some c =>
    let span ← charSpan
    let _ ← bump
    if c == '.' then pure (.dot span)
    else if c == '^' then pure (.assertion span .startLine)
    else if c == '$' then pure (.assertion span .endLine)
    else pure (.literal { span, c })
  | none => fail .escapeUnexpectedEof (← here)

/-! ## Repetitions -/

/-- Steps over blanks, whatever the mode. -/
def skipWhite : Nat → Parse Unit
  | 0 => pure ()
  | fuel + 1 => do
    match ← current with
    | some c =>
      if isWhiteSpace c then
        let _ ← bump
        skipWhite fuel
      else pure ()
    | none => pure ()

/-- Steps over blanks, and in verbose mode over comments too. -/
def skipWhiteSpaced : Nat → Parse Unit
  | 0 => pure ()
  | fuel + 1 => do
    match ← current with
    | some c =>
      if isWhiteSpace c then
        let _ ← bumpAndBumpSpace
        skipWhiteSpaced fuel
      else pure ()
    | none => pure ()

/-- Reads decimal digits. -/
def decimalDigits : Nat → List Char → Parse (List Char)
  | 0, acc => pure acc.reverse
  | fuel + 1, acc => do
    match ← current with
    | some c =>
      if c.isDigit then
        let _ ← bumpAndBumpSpace
        decimalDigits fuel (c :: acc)
      else pure acc.reverse
    | none => pure acc.reverse

/-- The value of decimal digits. -/
def decimalValue (ds : List Char) : Nat :=
  ds.foldl (fun acc c => acc * 10 + (c.toNat - '0'.toNat)) 0

/-- Reads a count of a counted repetition: a 32-bit decimal with blanks around it. What is wrong
with the count is answered rather than raised, so that running out of pattern can be reported
first. -/
def parseDecimal : Parse (Except PatternError Nat) := do
  skipWhite (← budget)
  let start ← position
  let ds ← decimalDigits (← budget) []
  let span : Span := ⟨start, ← position⟩
  skipWhiteSpaced (← budget)
  if ds.isEmpty then return .error { kind := .repetitionCountDecimalEmpty, span }
  if 0xFFFFFFFF < decimalValue ds then return .error { kind := .decimalInvalid, span }
  pure (.ok (decimalValue ds))

/-- The part a repetition at the position repeats, taken off the end of the concatenation:
there must be one, and it may not be a flag group. -/
def repeated (c : Concat) : Parse Ast := do
  match c.asts.getLast? with
  | none | some (.empty _) | some (.flags _ _) => fail .repetitionMissing (← here)
  | some ast => pure ast

/-- Reads `?`, `*` or `+`, with an optional `?` that makes it lazy. -/
def uncountedRepetition (c : Concat) : Parse Concat := do
  let ast ← repeated c
  if ← bump then
    if (← current) == some '?' then
      let _ ← bump
  pure { c with asts := c.asts.dropLast ++ [.repetition ⟨ast.span.start, ← position⟩ ast] }

/-- Reads a counted repetition `{m}`, `{m,}` or `{m,n}` from its brace. A pattern that ends
after the first count leaves the repetition unclosed, whatever the count. -/
def countedRepetition (c : Concat) : Parse Concat := do
  let start ← position
  let ast ← repeated c
  if !(← bumpAndBumpSpace) then fail .repetitionCountUnclosed ⟨start, ← position⟩
  let lo ← parseDecimal
  if ← atEnd then fail .repetitionCountUnclosed ⟨start, ← position⟩
  let lo ← MonadExcept.ofExcept lo
  let hi ← do
    if (← current) == some ',' then
      if !(← bumpAndBumpSpace) then fail .repetitionCountUnclosed ⟨start, ← position⟩
      if (← current) != some '\x7d' then pure (some (← MonadExcept.ofExcept (← parseDecimal)))
      else pure none
    else pure (some lo)
  if (← current) != some '\x7d' then fail .repetitionCountUnclosed ⟨start, ← position⟩
  if ← bumpAndBumpSpace then
    if (← current) == some '?' then
      let _ ← bumpAndBumpSpace
  let stop ← position
  match hi with
  | some h => if h < lo then fail .repetitionCountInvalid ⟨start, stop⟩
  | none => pure ()
  pure { c with asts := c.asts.dropLast ++ [.repetition ⟨ast.span.start, stop⟩ ast] }

/-! ## Groups -/

/-- Whether a character may stand in a group name (`first`: as its first character). -/
def isCaptureChar (c : Char) (first : Bool) : Bool :=
  if first then c == '_' || isAlphabetic c
  else c == '_' || c == '.' || c == '[' || c == ']' || isAlphanumeric c

/-- Steps over the characters of a group name, up to its `>` or the end of the pattern. -/
def nameChars : Nat → Nat → Parse Unit
  | 0, _ => pure ()
  | fuel + 1, start => do
    match ← current with
    | none => pure ()
    | some c =>
      if c == '>' then pure ()
      else
        if !isCaptureChar c ((← position) == start) then fail .groupNameInvalid (← charSpan)
        if ← bump then nameChars fuel start

/-- Reads a group name and its `>`, and records the name, which may be used once. -/
def parseCaptureName : Parse Unit := do
  if ← atEnd then fail .groupNameUnexpectedEof (← here)
  let start ← position
  nameChars (← budget) start
  let stop ← position
  if ← atEnd then fail .groupNameUnexpectedEof (← here)
  let _ ← bump
  let s ← get
  let name := String.ofList (s.text.extract start stop).toList
  if name.isEmpty then fail .groupNameEmpty ⟨start, start⟩
  let span : Span := ⟨start, stop⟩
  match s.names.find? (·.1 == name) with
  | some (_, first) => throw { kind := .groupNameDuplicate, span, earlier := some first }
  | none => set { s with names := (name, span) :: s.names }

/-- Reads flag letters and `-` up to the `:` or `)` that ends them; answers the items with their
stretches and the stretch of a `-` that no flag has followed yet. -/
def flagItems : Nat → List (FlagItem × Span) → Option Span →
    Parse (List (FlagItem × Span) × Option Span)
  | 0, items, dangling => pure (items, dangling)
  | fuel + 1, items, dangling => do
    match ← current with
    | none => pure (items, dangling)
    | some c =>
      if c == ':' || c == ')' then return (items, dangling)
      let span ← charSpan
      let (item, dangling') ← do
        if c == '-' then pure (FlagItem.negation, some span)
        else
          match Flag.ofChar? c with
          | some f => pure (FlagItem.flag f, none)
          | none => fail .flagUnrecognized span
      match items.find? (·.1 == item) with
      | some (_, first) =>
        let kind := if item == .negation then PatternErrorKind.flagRepeatedNegation
          else .flagDuplicate
        throw { kind, span, earlier := some first }
      | none => pure ()
      if !(← bump) then fail .flagUnexpectedEof (← here)
      flagItems fuel (items ++ [(item, span)]) dangling'

/-- Reads the flags of a flag group; a `-` must be followed by a flag. -/
def parseFlags : Parse (List FlagItem) := do
  let (items, dangling) ← flagItems (← budget) [] none
  match dangling with
  | some span => fail .flagDanglingNegation span
  | none => pure (items.map (·.1))

/-- What a `(` starts: flags for the rest of the enclosing group, or a group. -/
inductive GroupStart where
  | setFlags (span : Span) (items : List FlagItem)
  | opened (g : OpenGroup)

/-- Whether look-around follows a `(`; steps over its opening if so. -/
def lookAround : Parse Bool := do
  if ← bumpIf ['?', '='] then return true
  if ← bumpIf ['?', '!'] then return true
  if ← bumpIf ['?', '<', '='] then return true
  bumpIf ['?', '<', '!']

/-- Reads what follows a `(`: a group name, flags, or nothing. -/
def parseGroup : Parse GroupStart := do
  let openSpan ← charSpan
  let _ ← bump
  bumpSpace
  if ← lookAround then fail .unsupportedLookAround ⟨openSpan.start, ← position⟩
  let innerSpan ← here
  let named ← do
    if ← bumpIf ['?', 'P', '<'] then pure true else bumpIf ['?', '<']
  if named then
    parseCaptureName
    return .opened ⟨openSpan, none⟩
  if ← bumpIf ['?'] then
    if ← atEnd then fail .groupUnclosed openSpan
    let items ← parseFlags
    let stop ← current
    let _ ← bump
    if stop == some ')' then
      if items.isEmpty then fail .repetitionMissing innerSpan
      return .setFlags ⟨openSpan.start, ← position⟩ items
    return .opened ⟨openSpan, some items⟩
  pure (.opened ⟨openSpan, none⟩)

/-- Reads a `(` and what follows it: flags join the concatenation, a group starts a new one. -/
def pushGroup (c : Concat) : Parse Concat := do
  match ← parseGroup with
  | .setFlags span items =>
    match flagState items .ignoreWhitespace with
    | some v => modify fun s => { s with verbose := v }
    | none => pure ()
    pure (c.push (.flags span items))
  | .opened g =>
    let s ← get
    let inside := (g.flags.bind (flagState · .ignoreWhitespace)).getD s.verbose
    set { s with groups := .group c g s.verbose :: s.groups, verbose := inside }
    pure ⟨⟨s.pos, s.pos⟩, []⟩

/-- Reads a `)`: closes the innermost group, with the alternation inside it if there is one. -/
def popGroup (inner : Concat) : Parse Concat := do
  let s ← get
  let (outer, g, verbose, alt, rest) ← match s.groups with
    | .alternation aspan asts :: .group outer g v :: rest => pure (outer, g, v, some (aspan, asts), rest)
    | .group outer g v :: rest => pure (outer, g, v, none, rest)
    | _ => fail .groupUnopened ⟨s.pos, s.pos + 1⟩
  let close := s.pos
  set { s with groups := rest, verbose, pos := s.pos + 1 }
  let inner := { inner with span := ⟨inner.span.start, close⟩ }
  let body := match alt with
    | some (aspan, asts) => Ast.alternation ⟨aspan.start, close⟩ (asts ++ [inner.intoAst])
    | none => inner.intoAst
  pure (outer.push (.group ⟨g.span.start, close + 1⟩ g.flags body))

/-- Reads a `|`: the concatenation so far becomes an alternative. -/
def pushAlternate (c : Concat) : Parse Concat := do
  let s ← get
  let c := { c with span := ⟨c.span.start, s.pos⟩ }
  let groups := match s.groups with
    | .alternation aspan asts :: rest => .alternation aspan (asts ++ [c.intoAst]) :: rest
    | gs => .alternation ⟨c.span.start, s.pos⟩ [c.intoAst] :: gs
  set { s with groups, pos := s.pos + 1 }
  pure ⟨⟨s.pos + 1, s.pos + 1⟩, []⟩

/-- Ends the pattern: the last concatenation joins an open alternation, and no group may be
left open. -/
def popGroupEnd (c : Concat) : Parse Ast := do
  let s ← get
  let c := { c with span := ⟨c.span.start, s.pos⟩ }
  match s.groups with
  | [] => pure c.intoAst
  | [.alternation aspan asts] => pure (.alternation ⟨aspan.start, s.pos⟩ (asts ++ [c.intoAst]))
  | .group _ g _ :: _ => fail .groupUnclosed g.span
  | .alternation _ _ :: .group _ g _ :: _ => fail .groupUnclosed g.span
  | .alternation _ _ :: .alternation _ _ :: _ => fail .groupUnclosed ⟨s.pos, s.pos⟩

/-! ## Bracketed classes -/

/-- The error for a pattern that ends inside a class: about the innermost open class. -/
def unclosedClassError : Parse PatternError := do
  let s ← get
  let opened := s.classes.findSome? fun f =>
    match f with
    | .opened _ cls => some cls.span
    | .op _ _ => none
  pure { kind := .classUnclosed, span := opened.getD ⟨s.pos, s.pos⟩ }

/-- Reads leading `-` of a class, which are literal. -/
def leadingDashes : Nat → Nat → ClassUnion → Parse ClassUnion
  | 0, _, u => pure u
  | fuel + 1, start, u => do
    if (← current) == some '-' then
      let u' := u.push (.literal { span := ← charSpan, c := '-' })
      if !(← bumpAndBumpSpace) then fail .classUnclosed ⟨start, start⟩
      leadingDashes fuel start u'
    else pure u

/-- Reads the opening of a class: `[`, an optional `^`, any number of literal `-`, and a `]`
that comes first, which is literal too. -/
def openClassBracket : Parse (OpenClass × ClassUnion) := do
  let start ← position
  if !(← bumpAndBumpSpace) then fail .classUnclosed ⟨start, ← position⟩
  let negated ← do
    if (← current) == some '^' then
      if !(← bumpAndBumpSpace) then fail .classUnclosed ⟨start, ← position⟩
      pure true
    else pure false
  let u ← leadingDashes (← budget) start ⟨← here, []⟩
  let u ← do
    if u.items.isEmpty && (← current) == some ']' then
      let u' := u.push (.literal { span := ← charSpan, c := ']' })
      if !(← bumpAndBumpSpace) then fail .classUnclosed ⟨start, ← position⟩
      pure u'
    else pure u
  pure (⟨⟨start, ← position⟩, negated⟩, u)

/-- Opens a nested class inside the union `parent`. -/
def pushClassOpen (parent : ClassUnion) : Parse ClassUnion := do
  let (cls, u) ← openClassBracket
  modify fun s => { s with classes := .opened parent cls :: s.classes }
  pure u

/-- Joins a right side to the operator waiting for it, if there is one. -/
def popClassOp (rhs : ClassTree) : Parse ClassTree := do
  let s ← get
  match s.classes with
  | .op kind lhs :: rest =>
    set { s with classes := rest }
    pure (.op ⟨lhs.span.start, rhs.span.stop⟩ kind lhs rhs)
  | _ => pure rhs

/-- Reads a class operator after the union that is its left side. -/
def pushClassOp (kind : ClassOp) (u : ClassUnion) : Parse ClassUnion := do
  let lhs ← popClassOp u.intoItem
  modify fun s => { s with classes := .op kind lhs :: s.classes }
  pure ⟨← here, []⟩

/-- Reads a `]`: closes the innermost class. Answers the union of the class around it, or the
class itself when it was the outermost. -/
def popClass (u : ClassUnion) : Parse (ClassUnion ⊕ Ast) := do
  let body ← popClassOp u.intoItem
  let s ← get
  match s.classes with
  | .opened outer cls :: rest =>
    set { s with classes := rest, pos := s.pos + 1 }
    let span : Span := ⟨cls.span.start, s.pos + 1⟩
    if rest.isEmpty then pure (.inr (.bracketed span cls.negated body))
    else pure (.inl (outer.push (.bracketed span cls.negated body)))
  | _ => fail .classUnclosed ⟨s.pos, s.pos⟩

/-- An ASCII class `[:name:]` or `[:^name:]` at the start of a text: whether it is negated, its
kind and its length. -/
def asciiClassAt (cs : List Char) : Option (Bool × AsciiClass × Nat) :=
  match cs with
  | '[' :: ':' :: more =>
    let (negated, body) := match more with
      | '^' :: b => (true, b)
      | b => (false, b)
    if more.isEmpty || body.isEmpty then none
    else
      let name := body.takeWhile (· != ':')
      match body.dropWhile (· != ':') with
      | ':' :: ']' :: _ =>
        (AsciiClass.ofName? (String.ofList name)).map fun k =>
          (negated, k, 2 + (if negated then 1 else 0) + name.length + 2)
      | _ => none
  | _ => none

/-- Reads an ASCII class at a `[` inside a class, if one is there. -/
def maybeAsciiClass : Parse (Option ClassTree) := do
  let s ← get
  match asciiClassAt (s.text.extract s.pos s.text.size).toList with
  | some (negated, kind, n) =>
    set { s with pos := s.pos + n }
    pure (some (.ascii ⟨s.pos, s.pos + n⟩ negated kind))
  | none => pure none

/-- Reads an escape or a single character inside a class. -/
def parseSetClassItem : Parse Primitive := do
  match ← current with
  | some '\\' => parseEscape
  | some c =>
    let span ← charSpan
    let _ ← bump
    pure (.literal { span, c })
  | none => throw (← unclosedClassError)

/-- Reads an item of a class, or a range `a-b` of two literals in order. A `-` before `]` or
another `-` is no range. -/
def parseSetClassRange : Parse ClassTree := do
  let p1 ← parseSetClassItem
  bumpSpace
  if ← atEnd then throw (← unclosedClassError)
  let c ← current
  let next ← peekSpace
  if c != some '-' || next == some ']' || next == some '-' then
    return (← p1.intoClassItem)
  if !(← bumpAndBumpSpace) then throw (← unclosedClassError)
  let p2 ← parseSetClassItem
  let span : Span := ⟨p1.span.start, p2.span.stop⟩
  let lo ← p1.intoClassLiteral
  let hi ← p2.intoClassLiteral
  if hi.c < lo.c then fail .classRangeInvalid span
  pure (.range span lo hi)

/-- Reads the inside of a class until the outermost class closes. -/
def classLoop : Nat → ClassUnion → Parse Ast
  | 0, _ => do throw (← unclosedClassError)
  | fuel + 1, u => do
    bumpSpace
    if ← atEnd then throw (← unclosedClassError)
    let c := (← current).getD ' '
    if c == '[' then
      let ascii ← do
        if (← get).classes.isEmpty then pure none else maybeAsciiClass
      match ascii with
      | some cls => classLoop fuel (u.push cls)
      | none => classLoop fuel (← pushClassOpen u)
    else if c == ']' then
      match ← popClass u with
      | .inl u' => classLoop fuel u'
      | .inr cls => pure cls
    else
      let next ← peek
      if c == '&' && next == some '&' then
        let _ ← bumpIf ['&', '&']
        classLoop fuel (← pushClassOp .intersection u)
      else if c == '-' && next == some '-' then
        let _ ← bumpIf ['-', '-']
        classLoop fuel (← pushClassOp .difference u)
      else if c == '~' && next == some '~' then
        let _ ← bumpIf ['~', '~']
        classLoop fuel (← pushClassOp .symmetricDifference u)
      else
        classLoop fuel (u.push (← parseSetClassRange))

/-- Reads a bracketed class from its `[`. -/
def parseSetClass : Parse Ast := do
  classLoop (← budget) ⟨← here, []⟩

/-! ## Whole patterns -/

/-- Reads a pattern piece by piece until it ends. -/
def parseLoop : Nat → Concat → Parse Concat
  | 0, c => pure c
  | fuel + 1, c => do
    bumpSpace
    match ← current with
    | none => pure c
    | some ch =>
      let c' ← match ch with
        | '(' => pushGroup c
        | ')' => popGroup c
        | '|' => pushAlternate c
        | '[' => do pure (c.push (← parseSetClass))
        | '?' | '*' | '+' => uncountedRepetition c
        | '\x7b' => countedRepetition c
        | _ => do pure (c.push (← parsePrimitive).intoAst)
      parseLoop fuel c'

/-- The tree of a pattern, or its first syntax error. -/
def parseAst (pattern : String) : Except PatternError Ast :=
  let text := pattern.toList.toArray
  (do
    let c ← parseLoop (text.size + 1) ⟨⟨0, 0⟩, []⟩
    popGroupEnd c).run' { text }

end NesMachine.Log
