import Restatement.Comment.Basic
import Restatement.LineIndex

/-!
The construct that a comment sits next to, by lines: the next line first, then for a trailing
comment its own line, then a few lines further down.
-/

namespace Restatement

def lookahead : Nat := 3

/-- The first construct that does something, or the first of all. -/
def firstEffective? (constructs : List Construct) : Option Construct :=
  (constructs.find? (·.kind != .empty)).or constructs.head?

/-- The first construct that starts past the offset, or the first of all. -/
def firstPast? (offset : Int) (constructs : List Construct) : Option Construct :=
  (constructs.find? fun construct =>
    match construct.span with
    | none => false
    | some span => offset < span.startOffset).or constructs.head?

def adjacent? (comment : Comment) (index : LineIndex) : Option Construct :=
  let next := comment.span.endLine + 1
  let own := if comment.trailing then index.atLine comment.span.startLine else []
  ((firstEffective? (index.atLine next)).or (firstPast? comment.span.endOffset own)).or
    ((List.range lookahead).findSome? fun (distance : Nat) =>
      index.firstAt? (next + 1 + distance))

end Restatement
