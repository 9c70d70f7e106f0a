import Restatement.Comment.Body
import Restatement.Comment.Policy
import Restatement.Comment.Wording

/-!
What kind of remark a comment is. A classification depends on the kind and the body alone.
-/

namespace Restatement

structure Classification where
  text : Text
  isDocBlock : Bool
  isTodo : Bool
  isFixme : Bool
  isNote : Bool
  isDirective : Bool
  hasLink : Bool
  isFileHeader : Bool
  isNotice : Bool
  isBlock : Bool
  deriving DecidableEq, Repr

inductive Purpose where
  | documentation
  | todo
  | directive
  | explanation
  | noise
  deriving DecidableEq, Repr

def Purpose.name : Purpose → Text
  | .documentation => "documentation"
  | .todo => "todo"
  | .directive => "directive"
  | .explanation => "explanation"
  | .noise => "noise"

def Comment.classify (comment : Comment) : Classification where
  text := comment.text
  isDocBlock := comment.kind == .block && comment.body.head? == some '*'
  isTodo := Wording.mentions "todo" comment.body
  isFixme := Wording.mentions "fixme" comment.body
  isNote := Wording.mentions "note" comment.body
  isDirective := Wording.isDirective comment.body
  hasLink := Wording.hasLink comment.body
  isFileHeader := Wording.isFileHeader comment.body
  isNotice := Wording.opensWithNotice comment.body
  isBlock := comment.kind == .block

namespace Classification

def isLine (c : Classification) : Bool := !c.isBlock

def isAction (c : Classification) : Bool := c.isTodo || c.isFixme || c.isNote

def isDocumentation (c : Classification) : Bool :=
  c.isDocBlock || c.isFileHeader || c.isNotice || Wording.isDocumentation c.text

def isInline (c : Classification) : Bool :=
  !c.isDocumentation &&
    (c.isLine || c.isAction || c.isDirective || Wording.isRemark c.text)

def purpose (c : Classification) : Purpose :=
  if c.isDocumentation then .documentation
  else if c.isAction then .todo
  else if c.isDirective then .directive
  else if Wording.uses Wording.explanations c.text then .explanation
  else .noise

def treated (c : Classification) (policy : Policy) (handling : Handling) : Bool :=
  (policy.documentation == handling && c.isDocumentation) ||
    (policy.inline == handling && c.isInline)

def isSkipped (c : Classification) (policy : Policy) : Bool := c.treated policy .skip

def handling (c : Classification) (policy : Policy) : Handling :=
  if c.treated policy .strict then .strict else .normal

end Classification

end Restatement
