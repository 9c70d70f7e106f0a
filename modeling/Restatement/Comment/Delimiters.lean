import Restatement.Comment.Basic

/-!
Taking a comment apart into its kind and its body.
-/

namespace Restatement

def Text.dropEnd (count : Nat) (t : Text) : Text := t.take (t.length - count)

def closes (closer t : Text) : Bool := closer.isSuffixOf t

/-- A block comment ends at its closer if it has one; a comment in no known style is a line comment
and keeps all of its text. -/
def splitDelimiters (t : Text) : CommentKind × Text :=
  if ['/', '*'].isPrefixOf t then
    (.block, if closes ['*', '/'] t && 4 ≤ t.length then Text.dropEnd 2 (t.drop 2) else t.drop 2)
  else if ['/', '/'].isPrefixOf t then (.line, t.drop 2)
  else if ['#'].isPrefixOf t then (.line, t.drop 1)
  else if ['<', '!', '-', '-'].isPrefixOf t then
    (.block, if closes ['-', '-', '>'] t then Text.dropEnd 3 (t.drop 4) else t.drop 4)
  else (.line, t)

end Restatement
