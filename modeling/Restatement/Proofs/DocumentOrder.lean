import Restatement.Lowering

/-!
What a syntax tree says of its source, by recursion over the tree in document order, and the pass
over the tree with a stack of its own, which says the same.
-/

namespace Restatement

namespace SyntaxTree

mutual

def tokens (grammar : Grammar) : SyntaxTree → List Token
  | .node top children =>
      if grammar.isComment top.type then []
      else if !children.isEmpty then tokensAll grammar children
      else if top.startByte < top.endByte then [⟨top.type, top.span⟩]
      else []

def tokensAll (grammar : Grammar) : List SyntaxTree → List Token
  | [] => []
  | tree :: rest => tokens grammar tree ++ tokensAll grammar rest

end

def commentOf (source : Bytes) (earlier : List Token) (node : SyntaxNode) : Comment where
  span := node.span
  kind := (splitDelimiters (node.text source)).1
  body := (splitDelimiters (node.text source)).2
  trailing := earlier.getLast?.any fun token => token.span.endLine = node.span.startLine

mutual

def comments (grammar : Grammar) (source : Bytes) (earlier : List Token) :
    SyntaxTree → List Comment
  | .node top children =>
      if grammar.isComment top.type then [commentOf source earlier top]
      else commentsAll grammar source earlier children

def commentsAll (grammar : Grammar) (source : Bytes) (earlier : List Token) :
    List SyntaxTree → List Comment
  | [] => []
  | tree :: rest =>
      comments grammar source earlier tree ++
        commentsAll grammar source (earlier ++ tokens grammar tree) rest

end

def described (grammar : Grammar) (source : Bytes) (tree : SyntaxTree) : Construct where
  kind := (tree.capture grammar source).kind
  nodeType := tree.root.type
  span := some tree.root.span
  names := (tree.capture grammar source).names
  literals := (tree.capture grammar source).literals
  operator := (tree.capture grammar source).operator

mutual

def outlines (grammar : Grammar) (source : Bytes) : SyntaxTree → List Outline
  | .node top children =>
      if grammar.isComment top.type then []
      else if !top.named || grammar.isTransparent top.type then
        outlinesAll grammar source children
      else if children.isEmpty && top.missing then []
      else [.node (described grammar source (.node top children))
        (outlinesAll grammar source children)]

def outlinesAll (grammar : Grammar) (source : Bytes) : List SyntaxTree → List Outline
  | [] => []
  | tree :: rest => outlines grammar source tree ++ outlinesAll grammar source rest

end

mutual

/-- The nodes that become constructs, each after the construct of its nearest ancestor among
them. -/
def links (grammar : Grammar) (source : Bytes) (nearest : Construct) :
    SyntaxTree → List (Construct × Construct)
  | .node top children =>
      if grammar.isComment top.type then []
      else if !top.named || grammar.isTransparent top.type then
        linksAll grammar source nearest children
      else if children.isEmpty && top.missing then []
      else
        (nearest, described grammar source (.node top children)) ::
          linksAll grammar source (described grammar source (.node top children)) children

def linksAll (grammar : Grammar) (source : Bytes) (nearest : Construct) :
    List SyntaxTree → List (Construct × Construct)
  | [] => []
  | tree :: rest =>
      links grammar source nearest tree ++ linksAll grammar source nearest rest

end

end SyntaxTree

namespace Outline

mutual

def links (parent : Construct) : Outline → List (Construct × Construct)
  | .node construct children => (parent, construct) :: linksAll construct children

def linksAll (parent : Construct) : List Outline → List (Construct × Construct)
  | [] => []
  | outline :: rest => links parent outline ++ linksAll parent rest

end

theorem linksAll_append (parent : Construct) (first second : List Outline) :
    linksAll parent (first ++ second) = linksAll parent first ++ linksAll parent second := by
  induction first with
  | nil => rfl
  | cons outline rest ih => simp only [List.cons_append, linksAll, ih, List.append_assoc]

end Outline

namespace SyntaxTree

mutual

/-- In the outline a construct hangs from the nearest ancestor that became one. -/
theorem outlines_links (grammar : Grammar) (source : Bytes) (nearest : Construct) :
    ∀ tree : SyntaxTree, Outline.linksAll nearest (tree.outlines grammar source) =
      tree.links grammar source nearest
  | .node top children => by
      simp only [outlines, links]
      split
      · rfl
      · split
        · exact outlinesAll_links grammar source nearest children
        · split
          · rfl
          · simp only [Outline.linksAll, Outline.links, List.append_nil]
            rw [outlinesAll_links grammar source _ children]

theorem outlinesAll_links (grammar : Grammar) (source : Bytes) (nearest : Construct) :
    ∀ trees : List SyntaxTree, Outline.linksAll nearest (outlinesAll grammar source trees) =
      linksAll grammar source nearest trees
  | [] => rfl
  | tree :: rest => by
      simp only [outlinesAll, linksAll]
      rw [Outline.linksAll_append, outlines_links grammar source nearest tree,
        outlinesAll_links grammar source nearest rest]

end

end SyntaxTree

namespace Lowering

def lastLine (tokens : List Token) : Int := (tokens.getLast?.map (·.span.endLine)).getD 0

namespace Progress

/-- The line that is kept at hand is the line of the last token collected. -/
def Synced (p : Progress) : Prop := p.lastTokenLine = lastLine p.tokens

def take (p : Progress) (comments : List Comment) (tokens : List Token)
    (outlines : List Outline) : Progress where
  comments := p.comments ++ comments
  tokens := p.tokens ++ tokens
  lastTokenLine := lastLine (p.tokens ++ tokens)
  innermost := ⟨p.innermost.construct, p.innermost.children ++ outlines⟩
  outer := p.outer

theorem take_synced (p : Progress) (comments : List Comment) (tokens : List Token)
    (outlines : List Outline) : (p.take comments tokens outlines).Synced := rfl

theorem open_synced (p : Progress) (synced : p.Synced) (construct : Construct) :
    (p.openConstruct construct).Synced := synced

theorem take_nothing (p : Progress) (synced : p.Synced) : p.take [] [] [] = p := by
  have line : lastLine p.tokens = p.lastTokenLine := synced.symm
  simp only [take, List.append_nil, line]

theorem take_take (p : Progress) (c d : List Comment) (t u : List Token) (o q : List Outline) :
    (p.take c t o).take d u q = p.take (c ++ d) (t ++ u) (o ++ q) := by
  simp only [take, List.append_assoc]

/-- No line is numbered zero, so that a comment with no token before it does not trail. -/
theorem trails_eq (p : Progress) (synced : p.Synced) (node : SyntaxNode) :
    decide (p.lastTokenLine = node.span.startLine) =
      p.tokens.getLast?.any fun token => token.span.endLine = node.span.startLine := by
  rw [synced, lastLine]
  cases p.tokens.getLast? with
  | some token => rfl
  | none =>
      have positive : ¬ (0 : Int) = node.span.startLine := by
        simp only [SyntaxNode.span]
        omega
      exact decide_eq_false positive

theorem addComment_eq (p : Progress) (synced : p.Synced) (source : Bytes) (node : SyntaxNode) :
    p.addComment source node = p.take [SyntaxTree.commentOf source p.tokens node] [] [] := by
  have line : lastLine p.tokens = p.lastTokenLine := synced.symm
  simp only [addComment, take, SyntaxTree.commentOf, p.trails_eq synced node, List.append_nil, line]

theorem addLeaf_eq (p : Progress) (synced : p.Synced) (grammar : Grammar) (node : SyntaxNode)
    (code : grammar.isComment node.type = false) :
    p.addLeaf node = p.take [] (SyntaxTree.tokens grammar (.node node [])) [] := by
  simp only [addLeaf, SyntaxTree.tokens, code]
  split
  · simp [take, lastLine]
  · exact (p.take_nothing synced).symm

/-- A construct that is opened, filled and finished ends up as one outline of the construct around
it. -/
theorem finish_take_open (p : Progress) (construct : Construct) (comments : List Comment)
    (tokens : List Token) (outlines : List Outline) :
    ((p.openConstruct construct).take comments tokens outlines).finish =
      p.take comments tokens [.node construct outlines] := by
  simp only [openConstruct, take, finish, Frame.add, Frame.close, List.nil_append]

end Progress

theorem run_leaf (grammar : Grammar) (source : Bytes) (node : SyntaxNode)
    (code : grammar.isComment node.type = false) (rest : List Task) (p : Progress)
    (synced : p.Synced) :
    run grammar source (.visit (.node node []) :: rest) p =
      run grammar source rest
        (p.take [] (SyntaxTree.tokens grammar (.node node []))
          (SyntaxTree.outlines grammar source (.node node []))) := by
  rw [run]
  simp only [code, Bool.false_eq_true, if_false, List.isEmpty_nil, Bool.true_and, if_true,
    p.addLeaf_eq synced grammar node code, SyntaxTree.outlines, SyntaxTree.outlinesAll, visits,
    List.map_nil, List.nil_append, addsConstruct]
  cases node.named with
  | false => simp
  | true =>
      cases grammar.isTransparent node.type with
      | true => simp
      | false =>
          cases node.missing with
          | true => simp
          | false =>
              let taken := p.take [] (SyntaxTree.tokens grammar (.node node [])) []
              let construct := constructOf grammar source (.node node [])
              -- opened and finished with no child in between
              have opened := taken.finish_take_open construct [] [] []
              have synced : (taken.openConstruct construct).Synced :=
                taken.open_synced (p.take_synced _ _ _) construct
              simp only [Progress.take_nothing _ synced, taken, p.take_take, List.append_nil,
                List.nil_append] at opened
              simp only [Bool.not_true, Bool.not_false, Bool.or_self, Bool.and_self, if_true]
              rw [run, opened]
              rfl

mutual

/-- Visiting a tree takes in what the recursion gives of it, whatever is left to do after it. -/
theorem run_visit (grammar : Grammar) (source : Bytes) :
    ∀ (tree : SyntaxTree) (rest : List Task) (p : Progress), p.Synced →
      run grammar source (.visit tree :: rest) p =
        run grammar source rest
          (p.take (tree.comments grammar source p.tokens) (tree.tokens grammar)
            (tree.outlines grammar source))
  | .node node children, rest, p, synced => by
      cases code : grammar.isComment node.type with
      | true =>
          rw [run]
          simp only [code, if_true, p.addComment_eq synced, SyntaxTree.comments, SyntaxTree.tokens,
            SyntaxTree.outlines]
      | false =>
          cases empty : children.isEmpty with
          | true =>
              rw [List.isEmpty_iff.mp empty, run_leaf grammar source node code rest p synced]
              simp only [SyntaxTree.comments, SyntaxTree.commentsAll, code]
              rfl
          | false =>
              have inner := run_visits grammar source children
              rw [run]
              simp only [code, empty, SyntaxTree.comments, SyntaxTree.tokens, SyntaxTree.outlines,
                addsConstruct, Bool.false_and, Bool.false_eq_true, if_false]
              cases node.named with
              | false => exact inner rest p synced
              | true =>
                  cases grammar.isTransparent node.type with
                  | true => exact inner rest p synced
                  | false =>
                      let construct := constructOf grammar source (.node node children)
                      -- the children are visited inside the new construct, which is then finished
                      have opened := inner (.finish :: rest) (p.openConstruct construct)
                        (p.open_synced synced construct)
                      rw [run, p.finish_take_open] at opened
                      exact opened

theorem run_visits (grammar : Grammar) (source : Bytes) :
    ∀ (trees : List SyntaxTree) (rest : List Task) (p : Progress), p.Synced →
      run grammar source (visits trees ++ rest) p =
        run grammar source rest
          (p.take (SyntaxTree.commentsAll grammar source p.tokens trees)
            (SyntaxTree.tokensAll grammar trees) (SyntaxTree.outlinesAll grammar source trees))
  | [], rest, p, synced => by
      simp only [SyntaxTree.commentsAll, SyntaxTree.tokensAll, SyntaxTree.outlinesAll,
        p.take_nothing synced]
      rfl
  | tree :: others, rest, p, synced => by
      have first := run_visit grammar source tree (visits others ++ rest) p synced
      have second := run_visits grammar source others rest _
        (p.take_synced (tree.comments grammar source p.tokens) (tree.tokens grammar)
          (tree.outlines grammar source))
      rw [p.take_take] at second
      exact first.trans second

end

end Lowering

def SyntaxTree.fileConstruct (tree : SyntaxTree) : Construct where
  kind := .unknown
  nodeType := tree.root.type
  span := none

theorem Grammar.lower_eq (grammar : Grammar) (source : Bytes) (tree : SyntaxTree) :
    grammar.lower source tree =
      { outline := .node tree.fileConstruct (SyntaxTree.outlinesAll grammar source tree.children)
        comments := SyntaxTree.commentsAll grammar source [] tree.children
        tokens := SyntaxTree.tokensAll grammar tree.children } := by
  have visited := Lowering.run_visits grammar source tree.children [] (.start tree.root) rfl
  rw [List.append_nil, Lowering.run] at visited
  simp only [Grammar.lower, visited]
  rfl

/-- The pass over a tree gives what the recursion over the nodes below its root gives: comments,
tokens and constructs in document order, and under each construct those whose nearest ancestor
among the constructs it is. -/
theorem lower_in_document_order (grammar : Grammar) (source : Bytes) (tree : SyntaxTree) :
    (grammar.lower source tree).comments = SyntaxTree.commentsAll grammar source [] tree.children ∧
      (grammar.lower source tree).tokens = SyntaxTree.tokensAll grammar tree.children ∧
      (grammar.lower source tree).outline.construct = tree.fileConstruct ∧
      (grammar.lower source tree).outline.children =
        SyntaxTree.outlinesAll grammar source tree.children ∧
      Outline.linksAll tree.fileConstruct (grammar.lower source tree).outline.children =
        SyntaxTree.linksAll grammar source tree.fileConstruct tree.children := by
  rw [grammar.lower_eq source tree]
  refine ⟨rfl, rfl, rfl, rfl, ?_⟩
  exact SyntaxTree.outlinesAll_links grammar source tree.fileConstruct tree.children

end Restatement
