import Restatement.Proofs.DocumentOrder

/-!
Moving a syntax tree down and on by as many rows and bytes as stand in front of its source. The
nodes keep their texts, so that all that is captured of them stays the same, and comments, tokens
and outlines move along.
-/

namespace Restatement

def Span.shift (count : Nat) (span : Span) : Span :=
  { span with
    startLine := span.startLine + count
    endLine := span.endLine + count
    startOffset := span.startOffset + count
    endOffset := span.endOffset + count }

def Point.shift (count : Nat) (point : Point) : Point := { point with row := point.row + count }

def SyntaxNode.shift (count : Nat) (node : SyntaxNode) : SyntaxNode :=
  { node with
    startByte := node.startByte + count
    endByte := node.endByte + count
    start := node.start.shift count
    stop := node.stop.shift count }

theorem SyntaxNode.span_shift (count : Nat) (node : SyntaxNode) :
    (node.shift count).span = node.span.shift count := by
  simp only [span, shift, Point.shift, Span.shift, Int.natCast_add, Int.add_right_comm]

theorem SyntaxNode.text_shift (front source : Bytes) (node : SyntaxNode) :
    (node.shift front.length).text (front ++ source) = node.text source := by
  simp only [text, shift]
  rw [Nat.add_sub_add_right, Nat.add_comm node.startByte, List.drop_length_add_append]

namespace SyntaxTree

mutual

def shift (count : Nat) : SyntaxTree → SyntaxTree
  | .node top children => .node (top.shift count) (shiftAll count children)

def shiftAll (count : Nat) : List SyntaxTree → List SyntaxTree
  | [] => []
  | tree :: rest => shift count tree :: shiftAll count rest

end

theorem shiftAll_eq (count : Nat) (trees : List SyntaxTree) :
    shiftAll count trees = trees.map (shift count) := by
  induction trees with
  | nil => rfl
  | cons tree rest ih => rw [shiftAll, ih, List.map_cons]

theorem root_shift (count : Nat) (tree : SyntaxTree) :
    (tree.shift count).root = tree.root.shift count := by
  cases tree
  rfl

theorem children_shift (count : Nat) (tree : SyntaxTree) :
    (tree.shift count).children = tree.children.map (shift count) := by
  cases tree with
  | node top children => exact shiftAll_eq count children

theorem child_shift (count : Nat) (tree : SyntaxTree) (field : Text) :
    (tree.shift count).child? field = (tree.child? field).map (shift count) := by
  simp only [child?, children_shift, List.find?_map]
  congr 2
  funext child
  simp only [Function.comp_apply, root_shift]
  rfl

theorem namedChildren_shift (count : Nat) (tree : SyntaxTree) :
    (tree.shift count).namedChildren = tree.namedChildren.map (shift count) := by
  simp only [namedChildren, children_shift, List.filter_map]
  congr 2
  funext child
  simp only [Function.comp_apply, root_shift]
  rfl

section Captured

variable (grammar : Grammar) (front source : Bytes)

theorem type_shift (count : Nat) (tree : SyntaxTree) :
    (tree.shift count).root.type = tree.root.type := by
  rw [root_shift]
  rfl

theorem text_shift (tree : SyntaxTree) :
    (tree.shift front.length).text (front ++ source) = tree.text source := by
  rw [text, root_shift, SyntaxNode.text_shift, text]

theorem identifier_shift (tree : SyntaxTree) :
    (tree.shift front.length).identifier? (front ++ source) = tree.identifier? source := by
  simp only [identifier?, type_shift, text_shift]

theorem literal_shift (tree : SyntaxTree) :
    (tree.shift front.length).literal? grammar (front ++ source) =
      tree.literal? grammar source := by
  simp only [literal?, type_shift, text_shift]

theorem callee_shift (tree : SyntaxTree) :
    (tree.shift front.length).callee? (front ++ source) = tree.callee? source := by
  simp only [callee?, identifier_shift, type_shift, child_shift, Option.bind_map,
    Function.comp_def]

theorem captureAssignment_shift (tree : SyntaxTree) :
    (tree.shift front.length).captureAssignment grammar (front ++ source) =
      tree.captureAssignment grammar source := by
  simp only [captureAssignment, child_shift, Option.bind_map, Option.map_map, Option.any_map,
    Function.comp_def, identifier_shift, literal_shift, text_shift, type_shift]

theorem captureDeclaration_shift (tree : SyntaxTree) :
    (tree.shift front.length).captureDeclaration grammar (front ++ source) =
      tree.captureDeclaration grammar source := by
  simp only [captureDeclaration, child_shift, namedChildren_shift, List.find?_map, Option.bind_map,
    Option.map_map, Function.comp_def, identifier_shift, literal_shift, text_shift, type_shift]

theorem captureReturn_shift (tree : SyntaxTree) :
    (tree.shift front.length).captureReturn grammar (front ++ source) =
      tree.captureReturn grammar source := by
  simp only [captureReturn, namedChildren_shift, List.find?_map, Option.bind_map,
    Function.comp_def, identifier_shift, literal_shift, type_shift]

theorem captureOwn_shift (tree : SyntaxTree) :
    (tree.shift front.length).captureOwn grammar (front ++ source) =
      tree.captureOwn grammar source := by
  simp only [captureOwn, type_shift]
  cases grammar.kindOf tree.root.type with
  | assignment => exact captureAssignment_shift grammar front source tree
  | declaration => exact captureDeclaration_shift grammar front source tree
  | «return» => exact captureReturn_shift grammar front source tree
  | call =>
      simp only [child_shift, ← Option.map_or, Option.bind_map, Function.comp_def, callee_shift]
  | update =>
      simp only [child_shift, children_shift, Option.bind_map, List.any_map, Function.comp_def,
        identifier_shift, type_shift]
  | unknown => simp only [identifier_shift]
  | functionDef | classDef =>
      simp only [child_shift, Option.bind_map, Function.comp_def, identifier_shift]
  | _ => rfl

end Captured

mutual

theorem capture_shift (grammar : Grammar) (front source : Bytes) :
    ∀ tree : SyntaxTree, (tree.shift front.length).capture grammar (front ++ source) =
      tree.capture grammar source
  | .node top children => by
      have own := captureOwn_shift grammar front source (.node top children)
      have wrapped : (fun field => captureField? grammar (front ++ source) field
          (shiftAll front.length children)) =
            fun field => captureField? grammar source field children :=
        funext fun field => captureField_shift grammar front source field children
      have type : (top.shift front.length).type = top.type := rfl
      simp only [shift] at own
      simp only [shift, capture, own, wrapped, type]

theorem captureField_shift (grammar : Grammar) (front source : Bytes) (field : Text) :
    ∀ trees : List SyntaxTree,
      captureField? grammar (front ++ source) field (shiftAll front.length trees) =
        captureField? grammar source field trees
  | [] => rfl
  | tree :: rest => by
      have field : (tree.shift front.length).root.field = tree.root.field := by
        rw [root_shift]
        rfl
      simp only [shiftAll, captureField?, field, capture_shift grammar front source tree,
        captureField_shift grammar front source _ rest]

end

end SyntaxTree

def Token.shift (count : Nat) (token : Token) : Token :=
  { token with span := token.span.shift count }

def Comment.shift (count : Nat) (comment : Comment) : Comment :=
  { comment with span := comment.span.shift count }

def Construct.shift (count : Nat) (construct : Construct) : Construct :=
  { construct with span := construct.span.map (·.shift count) }

namespace Outline

mutual

def shift (count : Nat) : Outline → Outline
  | .node construct children => .node (construct.shift count) (shiftAll count children)

def shiftAll (count : Nat) : List Outline → List Outline
  | [] => []
  | outline :: rest => shift count outline :: shiftAll count rest

end

theorem shiftAll_append (count : Nat) (first second : List Outline) :
    shiftAll count (first ++ second) = shiftAll count first ++ shiftAll count second := by
  induction first with
  | nil => rfl
  | cons outline rest ih => simp only [List.cons_append, shiftAll, ih]

end Outline

namespace SyntaxTree

mutual

theorem tokens_shift (grammar : Grammar) (count : Nat) :
    ∀ tree : SyntaxTree, (tree.shift count).tokens grammar =
      (tree.tokens grammar).map (Token.shift count)
  | .node top children => by
      have type : (top.shift count).type = top.type := rfl
      have text : (top.shift count).startByte < (top.shift count).endByte ↔
          top.startByte < top.endByte := Nat.add_lt_add_iff_right
      have empty : (shiftAll count children).isEmpty = children.isEmpty := by
        rw [shiftAll_eq, List.isEmpty_map]
      simp only [shift, tokens, type, text, empty, tokensAll_shift grammar count children,
        SyntaxNode.span_shift]
      split
      · rfl
      · split
        · rfl
        · split <;> rfl

theorem tokensAll_shift (grammar : Grammar) (count : Nat) :
    ∀ trees : List SyntaxTree, tokensAll grammar (shiftAll count trees) =
      (tokensAll grammar trees).map (Token.shift count)
  | [] => rfl
  | tree :: rest => by
      simp only [shiftAll, tokensAll, tokens_shift grammar count tree,
        tokensAll_shift grammar count rest, List.map_append]

end

theorem commentOf_shift (front source : Bytes) (earlier : List Token) (node : SyntaxNode) :
    commentOf (front ++ source) (earlier.map (Token.shift front.length))
        (node.shift front.length) =
      (commentOf source earlier node).shift front.length := by
  have trails : ((earlier.map (Token.shift front.length)).getLast?.any fun token =>
      token.span.endLine = (node.span.shift front.length).startLine) =
        earlier.getLast?.any fun token => token.span.endLine = node.span.startLine := by
    simp only [List.getLast?_map, Option.any_map, Token.shift, Span.shift, Int.add_left_inj]
  simp only [commentOf, SyntaxNode.text_shift, SyntaxNode.span_shift, trails, Comment.shift]

mutual

theorem comments_shift (grammar : Grammar) (front source : Bytes) :
    ∀ (earlier : List Token) (tree : SyntaxTree),
      (tree.shift front.length).comments grammar (front ++ source)
          (earlier.map (Token.shift front.length)) =
        (tree.comments grammar source earlier).map (Comment.shift front.length)
  | earlier, .node top children => by
      have type : (top.shift front.length).type = top.type := rfl
      simp only [shift, comments, type, commentOf_shift,
        commentsAll_shift grammar front source earlier children]
      split <;> rfl

theorem commentsAll_shift (grammar : Grammar) (front source : Bytes) :
    ∀ (earlier : List Token) (trees : List SyntaxTree),
      commentsAll grammar (front ++ source) (earlier.map (Token.shift front.length))
          (shiftAll front.length trees) =
        (commentsAll grammar source earlier trees).map (Comment.shift front.length)
  | earlier, [] => rfl
  | earlier, tree :: rest => by
      have others := commentsAll_shift grammar front source (earlier ++ tree.tokens grammar) rest
      rw [List.map_append, ← tokens_shift] at others
      simp only [shiftAll, commentsAll, comments_shift grammar front source earlier tree, others,
        List.map_append]

end

theorem described_shift (grammar : Grammar) (front source : Bytes) (tree : SyntaxTree) :
    described grammar (front ++ source) (tree.shift front.length) =
      (described grammar source tree).shift front.length := by
  simp only [described, capture_shift, root_shift, SyntaxNode.span_shift, Construct.shift,
    Option.map_some]
  rfl

mutual

theorem outlines_shift (grammar : Grammar) (front source : Bytes) :
    ∀ tree : SyntaxTree, (tree.shift front.length).outlines grammar (front ++ source) =
      Outline.shiftAll front.length (tree.outlines grammar source)
  | .node top children => by
      have type : (top.shift front.length).type = top.type := rfl
      have named : (top.shift front.length).named = top.named := rfl
      have missing : (top.shift front.length).missing = top.missing := rfl
      have empty : (shiftAll front.length children).isEmpty = children.isEmpty := by
        rw [shiftAll_eq, List.isEmpty_map]
      have construct := described_shift grammar front source (.node top children)
      simp only [shift] at construct
      simp only [shift, outlines, type, named, missing, empty, construct,
        outlinesAll_shift grammar front source children]
      split
      · rfl
      · split
        · rfl
        · split <;> rfl

theorem outlinesAll_shift (grammar : Grammar) (front source : Bytes) :
    ∀ trees : List SyntaxTree,
      outlinesAll grammar (front ++ source) (shiftAll front.length trees) =
        Outline.shiftAll front.length (outlinesAll grammar source trees)
  | [] => rfl
  | tree :: rest => by
      simp only [shiftAll, outlinesAll, outlines_shift grammar front source tree,
        outlinesAll_shift grammar front source rest, Outline.shiftAll_append]

end

end SyntaxTree

end Restatement
