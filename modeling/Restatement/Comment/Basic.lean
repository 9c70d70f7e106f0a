import Restatement.Span
import Restatement.Text.Basic

namespace Restatement

inductive CommentKind where
  | line
  | block
  deriving DecidableEq, Repr

def CommentKind.name : CommentKind → Text
  | .line => "line"
  | .block => "block"

def CommentKind.ofName? (name : Text) : Option CommentKind :=
  [CommentKind.line, .block].find? (·.name == name)

/-- A comment. `body` leaves the delimiters out, `span` includes them, and `trailing` says that code
ends on the line on which the comment starts. -/
structure Comment where
  span : Span
  kind : CommentKind
  body : Text
  trailing : Bool
  deriving DecidableEq, Repr

end Restatement
