import Restatement.Comment.Basic
import Restatement.Construct
import Restatement.Language

/-!
A source file taken apart: its comments, its tokens and the outline of its constructs.
-/

namespace Restatement

structure Token where
  type : Text
  span : Span
  deriving DecidableEq, Repr

/-- Two readings of one file are two parsed files: `serial` tells them apart. -/
structure ParsedFile where
  serial : Nat
  path : Text
  language : Language
  source : Text
  outline : Outline
  comments : List Comment
  tokens : List Token
  deriving DecidableEq

/-- The place where the tests of a list turn from true to false, by halving the part from `low`
up to `high`. -/
def partitionPoint {α : Type} (test : α → Bool) (xs : List α) (low high : Nat) : Nat :=
  if h : low < high then
    let middle := (low + high) / 2
    if (xs[middle]?).any test then partitionPoint test xs (middle + 1) high
    else partitionPoint test xs low middle
  else low
termination_by high - low

namespace Token

def before? (tokens : List Token) (offset : Int) : Option Token :=
  match partitionPoint (fun token => token.span.endOffset ≤ offset) tokens 0 tokens.length with
  | 0 => none
  | place + 1 => tokens[place]?

def after? (tokens : List Token) (offset : Int) : Option Token :=
  tokens[partitionPoint (fun token => token.span.startOffset < offset) tokens 0 tokens.length]?

end Token

def ParsedFile.describe (file : ParsedFile) : Text :=
  "ParsedFile(file=" ++ file.path ++ ", language=" ++ file.language.name ++ ", comments=" ++
    Text.ofNat file.comments.length ++ [')']

end Restatement
