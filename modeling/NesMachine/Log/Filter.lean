import NesMachine.Text.Unicode
import NesMachine.Log.Pattern
/-!
# Log filter directives

A log filter is a comma-separated list of directives; empty pieces are skipped, and the first
directive that does not read decides the outcome. A directive, with the blanks around it
trimmed, is

    target [span{fields}] = level

where each part may be left out, but a target or a span must be there:

* the target runs up to the first `[` or `=`; it starts with a letter, a digit, `_`, `:` or `-`;
* a span is a name up to the first opening brace or `]`; after an opening brace, a field list
  runs to the first closing brace, must not be empty, and must be followed by `]`; after the `]`
  the directive ends or goes on with `=`;
* a field is a name, or `name=value`; a value that is not a boolean or a number is a pattern,
  which must be usable (`checkPattern`), and the fields are read before the `]` is looked for;
* the level is a number from 0 to 5, a level name in any case, or nothing.

The shape is found in the trimmed directive, but the target, the span name, the field list and
the level are cut from the directive as it was given, at the byte offsets they have in the
trimmed one. With blanks in front, the cuts fall early: the field list loses its end and the
level starts before the `=`, so it never reads. When an offset falls inside a character the cut
cannot be made and the program stops (`FilterReading.aborted`); the target is checked before it
is cut. A directive that is a target alone is taken as trimmed, without a cut.
-/

namespace NesMachine.Log

open Text

/-- Why a filter directive was refused. -/
inductive DirectiveError where
  /-- The directive is not a target, a span and a level in that order. -/
  | malformed
  /-- The text after `=` names no level. -/
  | badLevel
  /-- A field's value is a pattern that cannot be used. -/
  | badField (pattern : String) (fault : PatternFault)
  deriving DecidableEq, Repr

/-- The sentence for a level that does not read. -/
def levelErrorText : String :=
  "error parsing level filter: expected one of \"off\", \"error\", \"warn\", \"info\", " ++
    "\"debug\", \"trace\", or a number 0-5"

/-- The messages of a refused directive, outermost first: a level error wraps the level
reader's own error, and a field error the stages of building its pattern's matcher. -/
def DirectiveError.messages : DirectiveError → List String
  | .malformed => ["invalid filter directive"]
  | .badLevel => [levelErrorText, levelErrorText]
  | .badField pattern fault => fault.messages pattern

/-- What reading a filter comes to. -/
inductive FilterReading where
  | accepted
  | refused (e : DirectiveError)
  /-- A directive had to be cut at byte `offset`, inside a character. -/
  | aborted (offset : Nat)
  deriving DecidableEq, Repr

/-! ## Numbers and levels -/

/-- The value of decimal digits. -/
def digitsValue (ds : List Char) : Nat :=
  ds.foldl (fun acc c => acc * 10 + (c.toNat - '0'.toNat)) 0

/-- An unsigned decimal with an optional `+`, when it is below `limit`. -/
def unsignedBelow? (limit : Nat) (cs : List Char) : Option Nat :=
  let ds := match cs with
    | '+' :: rest => rest
    | _ => cs
  if ds.isEmpty || !ds.all Char.isDigit then none
  else if digitsValue ds < limit then some (digitsValue ds) else none

/-- The level names, in lower case. -/
def levelNames : List String := ["off", "error", "warn", "info", "debug", "trace"]

/-- Whether a text names a level: a number from 0 to 5, nothing (which means the error level),
or a level name in any case. -/
def isLevel (cs : List Char) : Bool :=
  (match unsignedBelow? 0x10000000000000000 cs with
    | some v => v ≤ 5
    | none => false) ||
  cs.isEmpty || levelNames.contains (String.ofList (cs.map Char.toLower))

/-- Whether a text is a 64-bit signed decimal. -/
def isSigned64 (cs : List Char) : Bool :=
  match cs with
  | '-' :: rest => (unsignedBelow? 0x8000000000000001 rest).isSome && rest.head? != some '+'
  | _ => (unsignedBelow? 0x8000000000000000 cs).isSome

/-- Whether a text is a decimal floating-point number: a sign, then `inf`, `infinity` or `nan`
in any case, or digits with an optional point and an optional exponent. -/
def isFloat (cs : List Char) : Bool :=
  let body := match cs with
    | '+' :: rest | '-' :: rest => rest
    | _ => cs
  let lower := String.ofList (body.map Char.toLower)
  if lower == "inf" || lower == "infinity" || lower == "nan" then true
  else
    let whole := body.takeWhile Char.isDigit
    let afterWhole := body.drop whole.length
    let (fraction, afterFraction) := match afterWhole with
      | '.' :: rest => (rest.takeWhile Char.isDigit, rest.dropWhile Char.isDigit)
      | _ => ([], afterWhole)
    let exponentOk := match afterFraction with
      | [] => true
      | e :: rest =>
        (e == 'e' || e == 'E') &&
          let ds := match rest with
            | '+' :: more | '-' :: more => more
            | _ => rest
          !ds.isEmpty && ds.all Char.isDigit
    (!whole.isEmpty || !fraction.isEmpty) && exponentOk

/-- Whether a field value is a boolean or a number, which is compared as such; any other
value is a pattern. -/
def isPlainValue (cs : List Char) : Bool :=
  cs == ['t', 'r', 'u', 'e'] || cs == ['f', 'a', 'l', 's', 'e'] ||
    (unsignedBelow? 0x10000000000000000 cs).isSome || isSigned64 cs || isFloat cs

/-- The error of the first field whose value is a pattern that does not read. -/
def fieldError? (fields : String) : Option DirectiveError :=
  ((fields.splitOn ",").filter (· != "")).findSome? fun field =>
    match field.splitOn "=" with
    | _ :: value :: _ =>
      if isPlainValue value.toList then none
      else (checkPattern value).map (DirectiveError.badField value)
    | _ => none

/-! ## Directives -/

/-- The length of a text in UTF-8 bytes. -/
def utf8Length (cs : List Char) : Nat :=
  cs.foldl (fun n c => n + c.utf8Size) 0

/-- The text after its first `n` bytes, when byte `n` starts a character or ends the text. -/
def dropBytes? : Nat → List Char → Option (List Char)
  | 0, cs => some cs
  | _ + 1, [] => none
  | n + 1, c :: cs => if c.utf8Size ≤ n + 1 then dropBytes? (n + 1 - c.utf8Size) cs else none

/-- The first `n` bytes of a text, when byte `n` starts a character or ends the text. -/
def takeBytes? : Nat → List Char → Option (List Char)
  | 0, _ => some []
  | _ + 1, [] => none
  | n + 1, c :: cs =>
    if c.utf8Size ≤ n + 1 then (takeBytes? (n + 1 - c.utf8Size) cs).map (c :: ·) else none

/-- The bytes from `a` up to `b` of a text, when both offsets fall between characters. -/
def sliceBytes? (d : List Char) (a b : Nat) : Option (List Char) :=
  (dropBytes? a d).bind (takeBytes? (b - a))

/-- Whether a character may start a target. -/
def isTargetStart (c : Char) : Bool :=
  isAlphanumeric c || c == '_' || c == ':' || c == '-'

/-- The text without the blanks at either end. -/
def trimBlanks (cs : List Char) : List Char :=
  ((cs.dropWhile isWhiteSpace).reverse.dropWhile isWhiteSpace).reverse

/-- Reads the level of directive `d`, cut from byte `offset` on. -/
def readLevel (d : List Char) (offset : Nat) : FilterReading :=
  match dropBytes? offset d with
  | none => .aborted offset
  | some level => if isLevel level then .accepted else .refused .badLevel

/-- Reads what follows the `]` of a span, whose trimmed text `more` starts at byte `offset`: the
end of the directive, or `=` and a level. -/
def closeSpan (d : List Char) (offset : Nat) (more : List Char) : FilterReading :=
  match more with
  | [] => .accepted
  | '=' :: _ => readLevel d (offset + 1)
  | _ => .refused .malformed

/-- Reads a span, whose trimmed text `inside` follows its `[` and starts at byte `start`: a name
up to `{` or `]`, then for a `{` a field list up to the first `}`, which a `]` must
follow. The fields are read before that `]` is looked for. -/
def readSpan (d : List Char) (start : Nat) (inside : List Char) : FilterReading :=
  let name := inside.takeWhile fun c => c != '\x7b' && c != ']'
  match inside.drop name.length with
  | [] => .refused .malformed
  | c :: rest =>
    let nameEnd := start + utf8Length name
    match sliceBytes? d start nameEnd with
    | none => .aborted nameEnd
    | some _ =>
      if c == ']' then closeSpan d (nameEnd + 1) rest
      else
        let fields := rest.takeWhile (· != '\x7d')
        match rest.drop fields.length with
        | [] => .refused .malformed
        | _ :: afterBrace =>
          let fieldsEnd := nameEnd + 1 + utf8Length fields
          match sliceBytes? d (nameEnd + 1) fieldsEnd with
          | none => .aborted fieldsEnd
          | some cut =>
            if fields.isEmpty then .refused .malformed
            else
              match fieldError? (String.ofList cut) with
              | some e => .refused e
              | none =>
                match afterBrace with
                | ']' :: more => closeSpan d (fieldsEnd + 2) more
                | _ => .refused .malformed

/-- Reads one directive, as given between commas. -/
def readDirective (d : List Char) : FilterReading :=
  let t := trimBlanks d
  let target := t.takeWhile fun c => c != '[' && c != '='
  let afterTarget := t.drop target.length
  let targetOk := match target with
    | c :: _ => isTargetStart c
    | [] => afterTarget.head? == some '['
  if !targetOk then .refused .malformed
  else
    match afterTarget with
    | [] => .accepted
    | _ :: rest =>
      let cut := utf8Length target
      match sliceBytes? d 0 cut with
      | none => .aborted cut
      | some _ =>
        match afterTarget with
        | '[' :: _ => readSpan d (cut + 1) rest
        | _ => readLevel d (cut + 1)

/-- Reads the directives of a filter in order, up to the first that is not accepted. -/
def readDirectives : List String → FilterReading
  | [] => .accepted
  | d :: ds =>
    match readDirective d.toList with
    | .accepted => readDirectives ds
    | r => r

/-- Reads a whole filter. -/
def readFilter (s : String) : FilterReading :=
  readDirectives ((s.splitOn ",").filter (· != ""))

end NesMachine.Log
