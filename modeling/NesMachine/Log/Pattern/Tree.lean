/-!
# The syntax tree of field-value patterns

A log filter may compare a field's value with a pattern written in the usual regular-expression
syntax. This module holds what reading such a pattern produces: the tree of its parts, each with
the stretch of the pattern it was read from, and the errors that reading, or giving the tree a
meaning, can end in.

Positions count characters of the pattern from 0; a `Span` is a half-open stretch of them.
-/

namespace NesMachine.Log

/-- A stretch of a pattern: the characters from index `start` up to, not including, `stop`. -/
structure Span where
  start : Nat
  stop : Nat
  deriving DecidableEq, Repr, Inhabited

/-- The kinds of error a pattern can end in: while it is read, while its nesting is measured,
or while its parts are given a meaning. -/
inductive PatternErrorKind where
  | classEscapeInvalid
  | classRangeInvalid
  | classRangeLiteral
  | classUnclosed
  | decimalInvalid
  | escapeHexEmpty
  | escapeHexInvalid
  | escapeHexInvalidDigit
  | escapeUnexpectedEof
  | escapeUnrecognized
  | flagDanglingNegation
  | flagDuplicate
  | flagRepeatedNegation
  | flagUnexpectedEof
  | flagUnrecognized
  | groupNameDuplicate
  | groupNameEmpty
  | groupNameInvalid
  | groupNameUnexpectedEof
  | groupUnclosed
  | groupUnopened
  | nestLimitExceeded
  | repetitionCountDecimalEmpty
  | repetitionCountInvalid
  | repetitionCountUnclosed
  | repetitionMissing
  | specialWordBoundaryUnclosed
  | specialWordBoundaryUnrecognized
  | specialWordOrRepetitionUnexpectedEof
  | unicodeClassInvalid
  | unsupportedBackreference
  | unsupportedLookAround
  | unicodeNotAllowed
  | invalidUtf8
  | unicodePropertyNotFound
  | unicodePropertyValueNotFound
  | unicodePerlClassNotFound
  | unicodeCaseUnavailable
  deriving DecidableEq, Repr

/-- How deeply groups, classes and repetitions may nest. -/
def nestLimit : Nat := 250

/-- The sentence that names an error. -/
def PatternErrorKind.message : PatternErrorKind → String
  | .classEscapeInvalid => "invalid escape sequence found in character class"
  | .classRangeInvalid => "invalid character class range, the start must be <= the end"
  | .classRangeLiteral => "invalid range boundary, must be a literal"
  | .classUnclosed => "unclosed character class"
  | .decimalInvalid => "decimal literal invalid"
  | .escapeHexEmpty => "hexadecimal literal empty"
  | .escapeHexInvalid => "hexadecimal literal is not a Unicode scalar value"
  | .escapeHexInvalidDigit => "invalid hexadecimal digit"
  | .escapeUnexpectedEof => "incomplete escape sequence, reached end of pattern prematurely"
  | .escapeUnrecognized => "unrecognized escape sequence"
  | .flagDanglingNegation => "dangling flag negation operator"
  | .flagDuplicate => "duplicate flag"
  | .flagRepeatedNegation => "flag negation operator repeated"
  | .flagUnexpectedEof => "expected flag but got end of regex"
  | .flagUnrecognized => "unrecognized flag"
  | .groupNameDuplicate => "duplicate capture group name"
  | .groupNameEmpty => "empty capture group name"
  | .groupNameInvalid => "invalid capture group character"
  | .groupNameUnexpectedEof => "unclosed capture group name"
  | .groupUnclosed => "unclosed group"
  | .groupUnopened => "unopened group"
  | .nestLimitExceeded =>
    "exceed the maximum number of nested parentheses/brackets (" ++ toString nestLimit ++ ")"
  | .repetitionCountDecimalEmpty => "repetition quantifier expects a valid decimal"
  | .repetitionCountInvalid => "invalid repetition count range, the start must be <= the end"
  | .repetitionCountUnclosed => "unclosed counted repetition"
  | .repetitionMissing => "repetition operator missing expression"
  | .specialWordBoundaryUnclosed =>
    "special word boundary assertion is either unclosed or contains an invalid character"
  | .specialWordBoundaryUnrecognized =>
    "unrecognized special word boundary assertion, valid choices are: start, end, start-half or end-half"
  | .specialWordOrRepetitionUnexpectedEof =>
    "found either the beginning of a special word boundary or a bounded repetition on a \\b with an opening brace, but no closing brace"
  | .unicodeClassInvalid => "invalid Unicode character class"
  | .unsupportedBackreference => "backreferences are not supported"
  | .unsupportedLookAround => "look-around, including look-ahead and look-behind, is not supported"
  | .unicodeNotAllowed => "Unicode not allowed here"
  | .invalidUtf8 => "pattern can match invalid UTF-8"
  | .unicodePropertyNotFound => "Unicode property not found"
  | .unicodePropertyValueNotFound => "Unicode property value not found"
  | .unicodePerlClassNotFound =>
    "Unicode-aware Perl class not found (make sure the unicode-perl feature is enabled)"
  | .unicodeCaseUnavailable =>
    "Unicode-aware case insensitivity matching is not available (make sure the unicode-case feature is enabled)"

/-- An error: its kind, the stretch it is about, and for a repeated flag or name the stretch of
the first occurrence. -/
structure PatternError where
  kind : PatternErrorKind
  span : Span
  earlier : Option Span := none
  deriving DecidableEq, Repr

/-! ## Flags -/

/-- The flags a group may set or clear. -/
inductive Flag where
  /-- `i`: letters match in either case. -/
  | caseInsensitive
  /-- `m`: `^` and `$` match at line ends. -/
  | multiLine
  /-- `s`: `.` matches a line feed too. -/
  | dotMatchesNewLine
  /-- `U`: repetitions are lazy unless marked. -/
  | swapGreed
  /-- `u`: the pattern speaks of characters rather than bytes. -/
  | unicode
  /-- `R`: a line ends at a carriage return and line feed too. -/
  | crlf
  /-- `x`: blanks are skipped and `#` starts a comment. -/
  | ignoreWhitespace
  deriving DecidableEq, Repr

/-- The flag a letter of a flag group names. -/
def Flag.ofChar? : Char → Option Flag
  | 'i' => some .caseInsensitive
  | 'm' => some .multiLine
  | 's' => some .dotMatchesNewLine
  | 'U' => some .swapGreed
  | 'u' => some .unicode
  | 'R' => some .crlf
  | 'x' => some .ignoreWhitespace
  | _ => none

/-- An item of a flag list: a flag, or the `-` after which the flags named are cleared. -/
inductive FlagItem where
  | negation
  | flag (f : Flag)
  deriving DecidableEq, Repr

/-- What a flag list does to a flag: `some true` sets it, `some false` clears it, `none` leaves it;
the first mention decides. -/
def flagState : List FlagItem → Flag → Option Bool
  | items, f =>
    let rec go : Bool → List FlagItem → Option Bool
      | _, [] => none
      | _, .negation :: rest => go false rest
      | on, .flag g :: rest => if g == f then some on else go on rest
    go true items

/-! ## The tree -/

/-- A literal character. A two-digit `\x` escape is marked: outside Unicode mode it stands for a
byte rather than a character. -/
structure Literal where
  span : Span
  c : Char
  byte : Bool := false
  deriving DecidableEq, Repr

/-- The zero-width assertions. -/
inductive Assertion where
  | startLine | endLine | startText | endText
  | wordBoundary | notWordBoundary | wordStart | wordEnd | wordStartHalf | wordEndHalf
  deriving DecidableEq, Repr

/-- Whether an assertion looks at word characters. -/
def Assertion.isWord : Assertion → Bool
  | .startLine | .endLine | .startText | .endText => false
  | _ => true

/-- The classes `\d`, `\s` and `\w`. -/
inductive PerlClass where
  | digit | space | word
  deriving DecidableEq, Repr

/-- The classes `[:name:]`. -/
inductive AsciiClass where
  | alnum | alpha | ascii | blank | cntrl | digit | graph | lower | print | punct | space | upper
  | word | xdigit
  deriving DecidableEq, Repr

/-- The ASCII class a name stands for. -/
def AsciiClass.ofName? : String → Option AsciiClass
  | "alnum" => some .alnum
  | "alpha" => some .alpha
  | "ascii" => some .ascii
  | "blank" => some .blank
  | "cntrl" => some .cntrl
  | "digit" => some .digit
  | "graph" => some .graph
  | "lower" => some .lower
  | "print" => some .print
  | "punct" => some .punct
  | "space" => some .space
  | "upper" => some .upper
  | "word" => some .word
  | "xdigit" => some .xdigit
  | _ => none

/-- How a Unicode class `\p` names its property: one letter, a name, or a name and a value. -/
inductive UnicodeClass where
  | oneLetter (c : Char)
  | named (name : String)
  | namedValue (name value : String)
  deriving DecidableEq, Repr

/-- The operators between the sets of a bracketed class. -/
inductive ClassOp where
  | intersection | difference | symmetricDifference
  deriving DecidableEq, Repr

/-- The inside of a bracketed class. -/
inductive ClassTree where
  | empty (span : Span)
  | literal (lit : Literal)
  | range (span : Span) (lo hi : Literal)
  | ascii (span : Span) (negated : Bool) (kind : AsciiClass)
  | unicode (span : Span) (negated : Bool) (kind : UnicodeClass)
  | perl (span : Span) (negated : Bool) (kind : PerlClass)
  /-- A class nested in brackets inside another. -/
  | bracketed (span : Span) (negated : Bool) (set : ClassTree)
  /-- Items side by side, of which a character may match any. -/
  | union (span : Span) (items : List ClassTree)
  /-- Two sets joined by `&&`, `--` or `~~`. -/
  | op (span : Span) (kind : ClassOp) (lhs rhs : ClassTree)
  deriving Repr, Inhabited

/-- The stretch a class part was read from. -/
def ClassTree.span : ClassTree → Span
  | .empty s | .range s _ _ | .ascii s _ _ | .unicode s _ _ | .perl s _ _ | .bracketed s _ _
  | .union s _ | .op s _ _ _ => s
  | .literal l => l.span

/-- A pattern's tree. -/
inductive Ast where
  | empty (span : Span)
  /-- `(?flags)`: flags that hold to the end of the enclosing group. -/
  | flags (span : Span) (items : List FlagItem)
  | literal (lit : Literal)
  | dot (span : Span)
  | assertion (span : Span) (kind : Assertion)
  | unicode (span : Span) (negated : Bool) (kind : UnicodeClass)
  | perl (span : Span) (negated : Bool) (kind : PerlClass)
  | bracketed (span : Span) (negated : Bool) (set : ClassTree)
  | repetition (span : Span) (ast : Ast)
  /-- A group; a non-capturing group may set flags for its inside. -/
  | group (span : Span) (flags : Option (List FlagItem)) (ast : Ast)
  | alternation (span : Span) (asts : List Ast)
  | concat (span : Span) (asts : List Ast)
  deriving Repr, Inhabited

/-- The stretch a part of a pattern was read from. -/
def Ast.span : Ast → Span
  | .empty s | .flags s _ | .dot s | .assertion s _ | .unicode s _ _ | .perl s _ _
  | .bracketed s _ _ | .repetition s _ | .group s _ _ | .alternation s _ | .concat s _ => s
  | .literal l => l.span

end NesMachine.Log
