namespace Restatement

/-- A place in a source file. Lines count from one, columns and offsets from zero; offsets are in
bytes, and the end is exclusive. -/
structure Span where
  startLine : Int
  startColumn : Int
  endLine : Int
  endColumn : Int
  startOffset : Int
  endOffset : Int
  deriving DecidableEq, Repr

def Span.containsLine (span : Span) (line : Int) : Bool :=
  span.startLine ≤ line && line ≤ span.endLine

end Restatement
