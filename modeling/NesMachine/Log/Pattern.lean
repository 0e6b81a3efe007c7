import NesMachine.Log.Pattern.Tree
import NesMachine.Log.Pattern.Parse
import NesMachine.Log.Pattern.Nesting
import NesMachine.Log.Pattern.Meaning
import NesMachine.Log.Pattern.Render
/-!
# Checking a field-value pattern

A pattern in a field filter is usable when it reads (`parseAst`), nests no deeper than allowed
(`Ast.tooDeep`), has a meaning for the matcher (`Ast.meaning`), and asserts no word boundary in
Unicode mode, which the matcher cannot decide. `checkPattern` answers the first of these that
fails.
-/

namespace NesMachine.Log

/-- Why a field-value pattern cannot be used. -/
inductive PatternFault where
  /-- The pattern does not read, nests too deeply, or has a part without a meaning. -/
  | invalid (e : PatternError)
  /-- The pattern asserts a word boundary in Unicode mode. -/
  | unicodeWordBoundary
  deriving DecidableEq, Repr

/-- The sentence for a pattern with a word boundary in Unicode mode. -/
def unicodeWordBoundaryText : String :=
  "unsupported regex feature for DFAs: cannot build DFAs for regexes with Unicode word " ++
    "boundaries; switch to ASCII word boundaries, or heuristically enable Unicode word " ++
    "boundaries or use a different regex engine"

/-- The messages of a pattern fault, outermost first: an invalid pattern goes through the three
stages of building its matcher, a word boundary stops the last stage by itself. -/
def PatternFault.messages (pattern : String) : PatternFault → List String
  | .invalid e =>
    ["invalid field filter: error building NFA", "error building NFA", "error parsing regex",
      e.render pattern]
  | .unicodeWordBoundary =>
    ["invalid field filter: " ++ unicodeWordBoundaryText, unicodeWordBoundaryText]

/-- What is wrong with a pattern, or `none` when it is usable. -/
def checkPattern (pattern : String) : Option PatternFault :=
  match parseAst pattern with
  | .error e => some (.invalid e)
  | .ok ast =>
    match ast.tooDeep 0 with
    | some span => some (.invalid { kind := .nestLimitExceeded, span })
    | none =>
      match ast.meaning {} with
      | .error e => some (.invalid e)
      | .ok (_, true) => some .unicodeWordBoundary
      | .ok (_, false) => none

end NesMachine.Log
