import NesMachine.Log.Pattern.Tree
/-!
# How deeply a pattern nests

Groups, alternations, concatenations, repetitions, bracketed classes, unions of class items and
class operators each add one level of nesting to what is inside them. A pattern may nest
`nestLimit` levels deep; `Ast.tooDeep` finds the first part, in reading order, that lies deeper.
-/

namespace NesMachine.Log

/-- Whether a part at `depth` levels lies deeper than allowed. -/
def overLimit (depth : Nat) : Bool :=
  nestLimit < depth

mutual
/-- The first part of a class, in reading order, that lies deeper than allowed, when the class
part itself lies `depth` levels deep once it is counted. -/
def ClassTree.tooDeep (depth : Nat) : ClassTree → Option Span
  | .bracketed s _ body =>
    if overLimit (depth + 1) then some s else ClassTree.tooDeep (depth + 1) body
  | .union s items =>
    if overLimit (depth + 1) then some s else ClassTree.listTooDeep (depth + 1) items
  | .op s _ lhs rhs =>
    if overLimit (depth + 1) then some s
    else
      match ClassTree.tooDeep (depth + 1) lhs with
      | some found => some found
      | none => ClassTree.tooDeep (depth + 1) rhs
  | _ => none

/-- The first class part of a list that lies deeper than allowed. -/
def ClassTree.listTooDeep (depth : Nat) : List ClassTree → Option Span
  | [] => none
  | t :: ts =>
    match ClassTree.tooDeep depth t with
    | some found => some found
    | none => ClassTree.listTooDeep depth ts
end

mutual
/-- The first part of a pattern, in reading order, that lies deeper than allowed; `depth` counts
the levels around the part. -/
def Ast.tooDeep (depth : Nat) : Ast → Option Span
  | .bracketed s _ body =>
    if overLimit (depth + 1) then some s else ClassTree.tooDeep (depth + 1) body
  | .repetition s a =>
    if overLimit (depth + 1) then some s else Ast.tooDeep (depth + 1) a
  | .group s _ a =>
    if overLimit (depth + 1) then some s else Ast.tooDeep (depth + 1) a
  | .alternation s as =>
    if overLimit (depth + 1) then some s else Ast.listTooDeep (depth + 1) as
  | .concat s as =>
    if overLimit (depth + 1) then some s else Ast.listTooDeep (depth + 1) as
  | _ => none

/-- The first part of a list that lies deeper than allowed. -/
def Ast.listTooDeep (depth : Nat) : List Ast → Option Span
  | [] => none
  | a :: as =>
    match Ast.tooDeep depth a with
    | some found => some found
    | none => Ast.listTooDeep depth as
end

end NesMachine.Log
