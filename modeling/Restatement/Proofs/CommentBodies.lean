import Restatement.Proofs.Delimiters
import Restatement.Proofs.DocumentOrder
import Restatement.Proofs.EncodedText

/-!
The comments of a file are those of its comment nodes, one for each and in the same order. Whatever
stands around and inside a comment in the source, its body is what was written between the
delimiters.
-/

namespace Restatement

/-- What a comment owes to its own node alone: all but whether it trails. -/
def Comment.ownParts (comment : Comment) : Span × CommentKind × Text :=
  (comment.span, comment.kind, comment.body)

namespace SyntaxTree

mutual

def commentNodes (grammar : Grammar) : SyntaxTree → List SyntaxNode
  | .node top children =>
      if grammar.isComment top.type then [top] else commentNodesAll grammar children

def commentNodesAll (grammar : Grammar) : List SyntaxTree → List SyntaxNode
  | [] => []
  | tree :: rest => commentNodes grammar tree ++ commentNodesAll grammar rest

end

mutual

theorem comments_own (grammar : Grammar) (source : Bytes) :
    ∀ (tree : SyntaxTree) (earlier : List Token),
      (tree.comments grammar source earlier).map Comment.ownParts =
        (tree.commentNodes grammar).map fun node => (node.span, splitDelimiters (node.text source))
  | .node top children, earlier => by
      simp only [comments, commentNodes]
      split
      · rfl
      · exact commentsAll_own grammar source children earlier

theorem commentsAll_own (grammar : Grammar) (source : Bytes) :
    ∀ (trees : List SyntaxTree) (earlier : List Token),
      (commentsAll grammar source earlier trees).map Comment.ownParts =
        (commentNodesAll grammar trees).map fun node =>
          (node.span, splitDelimiters (node.text source))
  | [], _ => rfl
  | tree :: rest, earlier => by
      rw [commentsAll, commentNodesAll, List.map_append, List.map_append,
        comments_own grammar source tree, commentsAll_own grammar source rest]

end

end SyntaxTree

/-- A comment node whose bytes are those of an opener, a body and a closer in the source gives a
comment with just that body, of the kind of its style and at the place of the node. -/
theorem body_survives (serial : Nat) (path : Text) (language : Language) (tree : SyntaxTree)
    (style : CommentStyle) (before body after : Text) (place : Nat) (node : SyntaxNode)
    (present : (SyntaxTree.commentNodesAll language.grammar tree.children)[place]? = some node)
    (starts : node.startByte = (Utf8.encode before).length)
    (ends : node.endByte =
      (Utf8.encode (before ++ (style.opener ++ body ++ style.closer))).length) :
    let source := before ++ (style.opener ++ body ++ style.closer) ++ after
    ∃ comment,
      (ParsedFile.ofTree serial path language source tree).comments[place]? = some comment ∧
        comment.body = body ∧ comment.kind = style.kind ∧ comment.span = node.span := by
  intro source
  have parts : splitDelimiters (node.text (Utf8.encode source)) = (style.kind, body) := by
    rw [node.text_of_part before _ after starts ends, split_enclosed]
  have own := congrArg (fun parts => parts[place]?)
    (SyntaxTree.commentsAll_own language.grammar (Utf8.encode source) tree.children [])
  simp only [List.getElem?_map, present, Option.map_some, parts] at own
  obtain ⟨comment, found, same⟩ := Option.map_eq_some_iff.mp own
  simp only [Comment.ownParts, Prod.mk.injEq] at same
  obtain ⟨span, kind, body⟩ := same
  rw [ParsedFile.ofTree, Grammar.lower_eq]
  exact ⟨comment, found, body, kind, span⟩

theorem body_survives_among_wide :
    let before := "é // a\n".toList
    let body := "/ 😀 *".toList
    let leaf := fun (first last : Nat) (start stop : Point) =>
      SyntaxTree.node ⟨"comment".toList, none, true, false, first, last, start, stop⟩ []
    let tree := SyntaxTree.node ⟨"program".toList, none, true, false, 0, 22, ⟨0, 0⟩, ⟨1, 14⟩⟩
      [leaf 3 7 ⟨0, 3⟩ ⟨0, 7⟩,
        .node ⟨"if_statement".toList, none, true, false, 8, 22, ⟨1, 0⟩, ⟨1, 14⟩⟩
          [leaf 8 20 ⟨1, 0⟩ ⟨1, 12⟩]]
    let node : SyntaxNode :=
      ⟨"comment".toList, none, true, false, 8, 20, ⟨1, 0⟩, ⟨1, 12⟩⟩
    let source := before ++ (CommentStyle.stars.opener ++ body ++ CommentStyle.stars.closer) ++
      " x".toList
    ((SyntaxTree.commentNodesAll Language.javascript.grammar tree.children)[1]? = some node ∧
      node.startByte = (Utf8.encode before).length ∧
      node.endByte = (Utf8.encode
        (before ++ (CommentStyle.stars.opener ++ body ++ CommentStyle.stars.closer))).length) ∧
    ∃ comment,
      (ParsedFile.ofTree 0 "a.js" .javascript source tree).comments[1]? = some comment ∧
        comment.body = body ∧ comment.kind = .block ∧ comment.span = node.span := by
  intro before body leaf tree node source
  have present :
      (SyntaxTree.commentNodesAll Language.javascript.grammar tree.children)[1]? = some node := by
    decide +kernel
  have starts : node.startByte = (Utf8.encode before).length := by decide +kernel
  have ends : node.endByte = (Utf8.encode
      (before ++ (CommentStyle.stars.opener ++ body ++ CommentStyle.stars.closer))).length := by
    decide +kernel
  exact ⟨⟨present, starts, ends⟩,
    body_survives 0 "a.js" .javascript tree .stars before body " x".toList 1 node present starts
      ends⟩

end Restatement
