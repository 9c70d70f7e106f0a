import Restatement.Comment.Delimiters
import Restatement.ParsedFile
import Restatement.SyntaxTree.Capture

/-!
One pass over a syntax tree in document order, with a stack of its own so that depth costs nothing.
Comments and tokens are collected; named nodes become constructs of the outline.
-/

namespace Restatement

namespace Lowering

/-- What is left to do: visit a tree, or finish the construct that was opened last. -/
inductive Task where
  | visit (tree : SyntaxTree)
  | finish

/-- A construct whose children are still being collected. -/
structure Frame where
  construct : Construct
  children : List Outline

def Frame.close (frame : Frame) : Outline := .node frame.construct frame.children

def Frame.add (frame : Frame) (child : Outline) : Frame :=
  { frame with children := frame.children ++ [child] }

structure Progress where
  comments : List Comment
  tokens : List Token
  lastTokenLine : Int
  innermost : Frame
  outer : List Frame

namespace Progress

def start (root : SyntaxNode) : Progress where
  comments := []
  tokens := []
  lastTokenLine := 0
  innermost := ⟨{ kind := .unknown, nodeType := root.type }, []⟩
  outer := []

/-- A comment trails when the last token before it ends on its first line. -/
def addComment (p : Progress) (source : Bytes) (node : SyntaxNode) : Progress :=
  let (kind, body) := splitDelimiters (node.text source)
  let trailing := p.lastTokenLine = node.span.startLine
  { p with comments := p.comments ++ [⟨node.span, kind, body, trailing⟩] }

def addLeaf (p : Progress) (node : SyntaxNode) : Progress :=
  if node.startByte < node.endByte then
    { p with tokens := p.tokens ++ [⟨node.type, node.span⟩], lastTokenLine := node.span.endLine }
  else p

def openConstruct (p : Progress) (construct : Construct) : Progress :=
  { p with innermost := ⟨construct, []⟩, outer := p.innermost :: p.outer }

def finish (p : Progress) : Progress :=
  match p.outer with
  | [] => p
  | frame :: outer => { p with innermost := frame.add p.innermost.close, outer := outer }

end Progress

def constructOf (grammar : Grammar) (source : Bytes) (tree : SyntaxTree) : Construct :=
  let captured := tree.capture grammar source
  { kind := captured.kind
    nodeType := tree.root.type
    span := some tree.root.span
    names := captured.names
    literals := captured.literals
    operator := captured.operator }

def addsConstruct (grammar : Grammar) (node : SyntaxNode) : Bool :=
  node.named && !grammar.isTransparent node.type

def Task.weight : Task → Nat
  | .visit tree => 2 * tree.size
  | .finish => 1

def weight : List Task → Nat
  | [] => 0
  | task :: rest => task.weight + weight rest

theorem weight_append (a b : List Task) : weight (a ++ b) = weight a + weight b := by
  induction a with
  | nil => simp [weight]
  | cons task rest ih => simp [weight, ih, Nat.add_assoc]

def visits (trees : List SyntaxTree) : List Task := trees.map .visit

theorem weight_visits (trees : List SyntaxTree) :
    weight (visits trees) = 2 * SyntaxTree.sizeAll trees := by
  induction trees with
  | nil => simp [visits, weight, SyntaxTree.sizeAll]
  | cons tree rest ih =>
      simp only [visits, List.map_cons, weight, Task.weight, SyntaxTree.sizeAll] at ih ⊢
      omega

def run (grammar : Grammar) (source : Bytes) : (tasks : List Task) → Progress → Progress
  | [], p => p
  | .finish :: rest, p => run grammar source rest p.finish
  | .visit (.node node children) :: rest, p =>
      if grammar.isComment node.type then run grammar source rest (p.addComment source node)
      else if children.isEmpty && (!node.named || node.missing) then
        run grammar source rest (p.addLeaf node)
      else
        let p := if children.isEmpty then p.addLeaf node else p
        if addsConstruct grammar node then
          run grammar source (visits children ++ .finish :: rest)
            (p.openConstruct (constructOf grammar source (.node node children)))
        else run grammar source (visits children ++ rest) p
termination_by tasks => weight tasks
decreasing_by
  all_goals
    simp only [weight_append, weight, weight_visits, Task.weight, SyntaxTree.size]
    omega

end Lowering

structure Lowered where
  outline : Outline
  comments : List Comment
  tokens : List Token

/-- Takes a syntax tree apart. The root of the outline stands for the file and has no span. -/
def Grammar.lower (grammar : Grammar) (source : Bytes) (tree : SyntaxTree) : Lowered :=
  let p := Lowering.run grammar source (Lowering.visits tree.children) (.start tree.root)
  ⟨p.innermost.close, p.comments, p.tokens⟩

def ParsedFile.ofTree (serial : Nat) (path : Text) (language : Language) (source : Text)
    (tree : SyntaxTree) : ParsedFile :=
  let lowered := language.grammar.lower (Utf8.encode source) tree
  { serial := serial
    path := path
    language := language
    source := source
    outline := lowered.outline
    comments := lowered.comments
    tokens := lowered.tokens }

end Restatement
