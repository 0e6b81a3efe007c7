import NesMachine.Log.Pattern.Tree
/-!
# Drawing a pattern error

`PatternError.render` draws the pattern with carets under the stretches an error concerns and
names the error. A pattern on one line is indented by four columns. A pattern of several lines is
set between two rules of 79 tildes, each line numbered, the numbers right-aligned to the width of
the largest; a stretch that runs over a line break gets no carets but a note naming the lines and
columns it runs between. Lines and columns count from 1.
-/

namespace NesMachine.Log

/-- The line and column of a position in a text. -/
def lineColumn (cs : List Char) (p : Nat) : Nat × Nat :=
  (cs.take p).foldl (fun lc c => if c == '\n' then (lc.1 + 1, 1) else (lc.1, lc.2 + 1)) (1, 1)

/-- A text cut at its line feeds, keeping the empty piece after a final one. -/
def cutAtLineFeeds : List Char → List (List Char)
  | [] => [[]]
  | c :: cs =>
    match cutAtLineFeeds cs with
    | l :: ls => if c == '\n' then [] :: l :: ls else (c :: l) :: ls
    | [] => [[c]]

/-- The lines of a text: no line for an empty text or after a final line feed, and a carriage
return before a line feed belongs to the line break. -/
def textLines (cs : List Char) : List (List Char) :=
  if cs.isEmpty then []
  else
    let pieces := cutAtLineFeeds cs
    let ended := pieces.dropLast.map fun l => if l.getLast? == some '\r' then l.dropLast else l
    if cs.getLast? == some '\n' then ended else ended ++ pieces.getLast?.toList

/-- Spans in order of their start, then of their end. -/
def sortSpans : List Span → List Span
  | [a, b] => if b.start < a.start || (b.start == a.start && b.stop < a.stop) then [b, a] else [a, b]
  | ss => ss

/-- The carets for stretches of one line, given as their start and end columns in order: each
stretch gets at least one caret. -/
def caretRow (cols : List (Nat × Nat)) : String :=
  let step (acc : List Char × Nat) (sc : Nat × Nat) : List Char × Nat :=
    let pad := (sc.1 - 1) - acc.2
    let marks := max 1 (sc.2 - sc.1)
    (acc.1 ++ List.replicate pad ' ' ++ List.replicate marks '^', acc.2 + pad + marks)
  String.ofList (cols.foldl step ([], 0)).1

/-- A number right-aligned in a field of `width` columns. -/
def padNumber (width n : Nat) : String :=
  let s := toString n
  String.ofList (List.replicate (width - s.length) ' ') ++ s

/-- The pattern's lines from line `n` on, each followed by the carets of the stretches on it. -/
def notateLines (width : Nat) (carets : Nat → Option String) : Nat → List (List Char) → String
  | _, [] => ""
  | n, l :: ls =>
    let lead := if width == 0 then "    " else padNumber width n ++ ": "
    let notes := match carets n with
      | some row => row ++ "\n"
      | none => ""
    lead ++ String.ofList l ++ "\n" ++ notes ++ notateLines width carets (n + 1) ls

/-- The error report for an error in a pattern. -/
def PatternError.render (e : PatternError) (pattern : String) : String :=
  let cs := pattern.toList
  let lines := textLines cs
  let lineCount := lines.length + (if cs.getLast? == some '\n' then 1 else 0)
  let width := if lineCount ≤ 1 then 0 else (toString lineCount).length
  let place := lineColumn cs
  let spans := sortSpans (e.span :: e.earlier.toList)
  let oneLine := spans.filter fun s => (place s.start).1 == (place s.stop).1
  let multiLine := spans.filter fun s => (place s.start).1 != (place s.stop).1
  let carets (n : Nat) : Option String :=
    match oneLine.filter (fun s => (place s.start).1 == n) with
    | [] => none
    | here =>
      some (String.ofList (List.replicate (if width == 0 then 4 else width + 2) ' ') ++
        caretRow (here.map fun s => ((place s.start).2, (place s.stop).2)))
  let notated := notateLines width carets 1 lines
  let message := "error: " ++ e.kind.message
  if cs.contains '\n' then
    let rule := String.ofList (List.replicate 79 '~')
    let notes := multiLine.map fun s =>
      "on line " ++ toString (place s.start).1 ++ " (column " ++ toString (place s.start).2 ++
        ") through line " ++ toString (place s.stop).1 ++ " (column " ++
        toString ((place s.stop).2 - 1) ++ ")"
    let noteText := if notes.isEmpty then "" else "\n".intercalate notes ++ "\n"
    "regex parse error:\n" ++ rule ++ "\n" ++ notated ++ rule ++ "\n" ++ noteText ++ message
  else
    "regex parse error:\n" ++ notated ++ message

end NesMachine.Log
