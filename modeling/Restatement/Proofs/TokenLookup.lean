import Mathlib.Data.List.Chain
import Restatement.Proofs.DocumentOrder

/-!
Tokens are looked up by halving. A list in which a test turns once from true to false is parted
where it turns, so that the last token before a comment is found among all tokens of the file; and
it says of the comment what the pass over the tree said of it.
-/

namespace Restatement

/-- Halving stays around the place where the test turns. -/
theorem partitionPoint_eq {α : Type} (test : α → Bool) (xs : List α) (turn low high : Nat)
    (before : ∀ place < turn, (xs[place]?).any test = true)
    (after : ∀ place, turn ≤ place → (xs[place]?).any test = false)
    (above : low ≤ turn) (below : turn ≤ high) :
    partitionPoint test xs low high = turn := by
  fun_induction partitionPoint test xs low high with
  | case1 low high room middle passes ih =>
      have early : middle < turn := by
        rcases Nat.lt_or_ge middle turn with early | late
        · exact early
        · rw [after middle late] at passes
          cases passes
      exact ih early below
  | case2 low high room middle fails ih =>
      have late : turn ≤ middle := by
        rcases Nat.lt_or_ge middle turn with early | late
        · exact absurd (before middle early) fails
        · exact late
      exact ih above late
  | case3 low high empty => omega

theorem partitionPoint_append {α : Type} (test : α → Bool) (first second : List α)
    (passes : ∀ x ∈ first, test x = true) (fails : ∀ x ∈ second, test x = false) :
    partitionPoint test (first ++ second) 0 (first ++ second).length = first.length := by
  apply partitionPoint_eq
  · intro place before
    have inside : first[place] ∈ first := List.getElem_mem before
    rw [List.getElem?_append_left before, List.getElem?_eq_getElem before, Option.any_some]
    exact passes _ inside
  · intro place after
    rw [List.getElem?_append_right after]
    cases found : second[place - first.length]? with
    | none => rfl
    | some x =>
        rw [Option.any_some]
        exact fails x (List.mem_of_getElem? found)
  · exact Nat.zero_le _
  · simp

theorem Token.before_append (first second : List Token) (offset : Int)
    (early : ∀ token ∈ first, token.span.endOffset ≤ offset)
    (late : ∀ token ∈ second, offset < token.span.endOffset) :
    Token.before? (first ++ second) offset = first.getLast? := by
  have point := partitionPoint_append (fun token : Token => token.span.endOffset ≤ offset)
    first second (fun token member => decide_eq_true (early token member))
    (fun token member => decide_eq_false (Int.not_le.mpr (late token member)))
  rw [Token.before?, point]
  cases size : first.length with
  | zero =>
      rw [List.length_eq_zero_iff.mp size]
      rfl
  | succ place =>
      have inside : place < first.length := by omega
      rw [List.getLast?_eq_getElem?, size, Nat.add_sub_cancel]
      exact List.getElem?_append_left inside

namespace SyntaxTree

mutual

/-- The comments that are not below another one and the leaves with text outside them, in document
order. -/
def pieces (grammar : Grammar) : SyntaxTree → List SyntaxNode
  | .node top children =>
      if grammar.isComment top.type then [top]
      else if !children.isEmpty then piecesAll grammar children
      else if top.startByte < top.endByte then [top]
      else []

def piecesAll (grammar : Grammar) : List SyntaxTree → List SyntaxNode
  | [] => []
  | tree :: rest => pieces grammar tree ++ piecesAll grammar rest

end

def tokensAmong (grammar : Grammar) (nodes : List SyntaxNode) : List Token :=
  (nodes.filter fun node => !grammar.isComment node.type).map fun node => ⟨node.type, node.span⟩

theorem tokensAmong_append (grammar : Grammar) (first second : List SyntaxNode) :
    tokensAmong grammar (first ++ second) =
      tokensAmong grammar first ++ tokensAmong grammar second := by
  simp only [tokensAmong, List.filter_append, List.map_append]

mutual

theorem tokens_eq_among (grammar : Grammar) :
    ∀ tree : SyntaxTree, tree.tokens grammar = tokensAmong grammar (tree.pieces grammar)
  | .node top children => by
      simp only [tokens, pieces]
      cases code : grammar.isComment top.type with
      | true => simp [tokensAmong, code]
      | false =>
          cases children.isEmpty with
          | false => exact tokensAll_eq_among grammar children
          | true =>
              by_cases text : top.startByte < top.endByte
              · simp [tokensAmong, code, text]
              · simp [tokensAmong, text]

theorem tokensAll_eq_among (grammar : Grammar) :
    ∀ trees : List SyntaxTree, tokensAll grammar trees =
      tokensAmong grammar (piecesAll grammar trees)
  | [] => rfl
  | tree :: rest => by
      rw [tokensAll, piecesAll, tokensAmong_append, tokens_eq_among grammar tree,
        tokensAll_eq_among grammar rest]

end

mutual

theorem pieces_text (grammar : Grammar) :
    ∀ tree : SyntaxTree, ∀ piece ∈ tree.pieces grammar, grammar.isComment piece.type = false →
      piece.startByte < piece.endByte
  | .node top children, piece, member, code => by
      simp only [pieces] at member
      split at member
      · rename_i comment
        rw [List.mem_singleton.mp member, comment] at code
        cases code
      · split at member
        · exact piecesAll_text grammar children piece member code
        · split at member
          · rename_i text
            rw [List.mem_singleton.mp member]
            exact text
          · cases member

theorem piecesAll_text (grammar : Grammar) :
    ∀ trees : List SyntaxTree, ∀ piece ∈ piecesAll grammar trees,
      grammar.isComment piece.type = false → piece.startByte < piece.endByte
  | [], _, member, _ => by cases member
  | tree :: rest, piece, member, code => by
      rcases List.mem_append.mp member with first | later
      · exact pieces_text grammar tree piece first code
      · exact piecesAll_text grammar rest piece later code

end

mutual

theorem comments_among (grammar : Grammar) (source : Bytes) :
    ∀ (tree : SyntaxTree) (earlier : List Token),
      ∀ comment ∈ tree.comments grammar source earlier,
        ∃ before node after, tree.pieces grammar = before ++ node :: after ∧
          grammar.isComment node.type = true ∧
          comment = commentOf source (earlier ++ tokensAmong grammar before) node
  | .node top children, earlier, comment, member => by
      simp only [comments] at member
      split at member
      · rename_i code
        refine ⟨[], top, [], ?_, code, ?_⟩
        · rw [pieces, if_pos code]
          rfl
        · rw [List.mem_singleton.mp member, tokensAmong, List.filter_nil, List.map_nil,
            List.append_nil]
      · rename_i code
        cases empty : children.isEmpty with
        | true =>
            rw [List.isEmpty_iff.mp empty, commentsAll] at member
            cases member
        | false =>
            obtain ⟨before, node, after, found⟩ :=
              commentsAll_among grammar source children earlier comment member
            refine ⟨before, node, after, ?_⟩
            rw [pieces, if_neg code, empty]
            exact found

theorem commentsAll_among (grammar : Grammar) (source : Bytes) :
    ∀ (trees : List SyntaxTree) (earlier : List Token),
      ∀ comment ∈ commentsAll grammar source earlier trees,
        ∃ before node after, piecesAll grammar trees = before ++ node :: after ∧
          grammar.isComment node.type = true ∧
          comment = commentOf source (earlier ++ tokensAmong grammar before) node
  | [], _, _, member => by cases member
  | tree :: rest, earlier, comment, member => by
      rcases List.mem_append.mp member with first | later
      · obtain ⟨before, node, after, split, code, same⟩ :=
          comments_among grammar source tree earlier comment first
        refine ⟨before, node, after ++ piecesAll grammar rest, ?_, code, same⟩
        rw [piecesAll, split, List.append_assoc, List.cons_append]
      · obtain ⟨before, node, after, split, code, same⟩ :=
          commentsAll_among grammar source rest _ comment later
        refine ⟨tree.pieces grammar ++ before, node, after, ?_, code, ?_⟩
        · rw [piecesAll, split, List.append_assoc]
        · rw [same, tokensAmong_append, tokens_eq_among, List.append_assoc]

end

end SyntaxTree

/-- Nodes that follow one another in the source: each ends where it starts or after it, and the next
starts where it ends or after it. -/
structure InSequence (nodes : List SyntaxNode) : Prop where
  forward : ∀ node ∈ nodes, node.startByte ≤ node.endByte
  apart : nodes.IsChain fun first second => first.endByte ≤ second.startByte

namespace InSequence

theorem tail {node : SyntaxNode} {rest : List SyntaxNode} (sequence : InSequence (node :: rest)) :
    InSequence rest where
  forward := fun other member => sequence.forward other (List.mem_cons_of_mem node member)
  apart := sequence.apart.tail

theorem head_before {node : SyntaxNode} {rest : List SyntaxNode}
    (sequence : InSequence (node :: rest)) : ∀ later ∈ rest, node.endByte ≤ later.startByte := by
  induction rest generalizing node with
  | nil =>
      intro later member
      cases member
  | cons next rest ih =>
      have step : node.endByte ≤ next.startByte := sequence.apart.rel
      intro later member
      rcases List.mem_cons.mp member with rfl | member
      · exact step
      · have through := sequence.forward next (List.mem_cons_of_mem node List.mem_cons_self)
        have further := ih sequence.tail later member
        omega

theorem around {before after : List SyntaxNode} {node : SyntaxNode}
    (sequence : InSequence (before ++ node :: after)) :
    (∀ earlier ∈ before, earlier.endByte ≤ node.startByte) ∧
      ∀ later ∈ after, node.endByte ≤ later.startByte := by
  induction before with
  | nil =>
      refine ⟨?_, sequence.head_before⟩
      intro earlier member
      cases member
  | cons first before ih =>
      obtain ⟨early, late⟩ := ih sequence.tail
      refine ⟨?_, late⟩
      intro earlier member
      rcases List.mem_cons.mp member with rfl | member
      · exact sequence.head_before node (List.mem_append_right before List.mem_cons_self)
      · exact early earlier member

end InSequence

/-- The last token before a piece that is a comment is the one found at the offset where the comment
starts. -/
theorem Token.before_piece (grammar : Grammar) (before after : List SyntaxNode) (node : SyntaxNode)
    (code : grammar.isComment node.type = true)
    (text : ∀ piece ∈ after, grammar.isComment piece.type = false →
      piece.startByte < piece.endByte)
    (sequence : InSequence (before ++ node :: after)) :
    Token.before? (SyntaxTree.tokensAmong grammar (before ++ node :: after)) node.startByte =
      (SyntaxTree.tokensAmong grammar before).getLast? := by
  have parted : SyntaxTree.tokensAmong grammar (before ++ node :: after) =
      SyntaxTree.tokensAmong grammar before ++ SyntaxTree.tokensAmong grammar after := by
    rw [SyntaxTree.tokensAmong_append]
    simp [SyntaxTree.tokensAmong, code]
  obtain ⟨early, late⟩ := sequence.around
  have through := sequence.forward node (List.mem_append_right before List.mem_cons_self)
  rw [parted]
  apply Token.before_append
  · intro token member
    obtain ⟨piece, inside, rfl⟩ := List.mem_map.mp member
    have ends := early piece (List.mem_filter.mp inside).1
    simp only [SyntaxNode.span]
    omega
  · intro token member
    obtain ⟨piece, inside, rfl⟩ := List.mem_map.mp member
    obtain ⟨present, leaf⟩ := List.mem_filter.mp inside
    have starts := late piece present
    -- a token that starts where an empty comment ends still ends after it
    have wide := text piece present (by simpa using leaf)
    simp only [SyntaxNode.span]
    omega

/-- In a tree whose comments and tokens follow one another in the source, a comment trails just when
the token found before its start ends on its first line. -/
theorem trailing_by_lookup (grammar : Grammar) (source : Bytes) (tree : SyntaxTree)
    (sequence : InSequence (SyntaxTree.piecesAll grammar tree.children)) :
    ∀ comment ∈ (grammar.lower source tree).comments,
      comment.trailing = true ↔
        ∃ token, Token.before? (grammar.lower source tree).tokens comment.span.startOffset =
            some token ∧ token.span.endLine = comment.span.startLine := by
  rw [grammar.lower_eq]
  intro comment member
  obtain ⟨before, node, after, split, code, rfl⟩ :=
    SyntaxTree.commentsAll_among grammar source tree.children [] comment member
  have text := SyntaxTree.piecesAll_text grammar tree.children
  rw [split] at sequence text
  have found := Token.before_piece grammar before after node code
    (fun piece present => text piece (List.mem_append_right before
      (List.mem_cons_of_mem node present))) sequence
  have start : (SyntaxTree.commentOf source ([] ++ SyntaxTree.tokensAmong grammar before)
      node).span.startOffset = node.startByte := rfl
  rw [start, SyntaxTree.tokensAll_eq_among, split, found]
  simp [SyntaxTree.commentOf, Option.any_eq_true]

theorem trailing_by_lookup_two_lines :
    let leaf := fun (type : Text) (first last : Nat) (start stop : Point) =>
      SyntaxTree.node ⟨type, none, true, false, first, last, start, stop⟩ []
    let source := Utf8.encode "`a\nb` // c\n// d\n".toList
    let tree := SyntaxTree.node ⟨"program".toList, none, true, false, 0, 16, ⟨0, 0⟩, ⟨3, 0⟩⟩
      [leaf "template_string".toList 0 5 ⟨0, 0⟩ ⟨1, 2⟩,
        leaf "comment".toList 6 10 ⟨1, 3⟩ ⟨1, 7⟩, leaf "comment".toList 11 15 ⟨2, 0⟩ ⟨2, 4⟩]
    let lowered := Language.javascript.grammar.lower source tree
    InSequence (SyntaxTree.piecesAll Language.javascript.grammar tree.children) ∧
      lowered.comments.map (·.trailing) = [true, false] ∧
      ∀ comment ∈ lowered.comments, comment.trailing = true ↔
        ∃ token, Token.before? lowered.tokens comment.span.startOffset = some token ∧
          token.span.endLine = comment.span.startLine := by
  intro leaf source tree lowered
  have sequence : InSequence (SyntaxTree.piecesAll Language.javascript.grammar tree.children) :=
    ⟨by decide +kernel, by decide +kernel⟩
  exact ⟨sequence, by decide +kernel, trailing_by_lookup _ source tree sequence⟩

end Restatement
