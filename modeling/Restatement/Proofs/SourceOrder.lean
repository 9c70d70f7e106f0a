import Restatement.Proofs.Agreement
import Restatement.Proofs.LinePartition

/-!
A line index follows the source. In a tree whose nodes lie within their parents and whose siblings
come one after the other, the nodes in document order start one after the other; the constructs are
some of them, in the same order, and the lines and buckets of the index inherit it.
-/

namespace Restatement

structure Extent where
  first : Nat
  last : Nat

namespace Extent

structure Within (inner outer : Extent) : Prop where
  starts : outer.first ≤ inner.first
  reached : inner.first ≤ outer.last
  ends : inner.last ≤ outer.last

/-- The later stretch starts neither before the earlier one starts nor before it ends. -/
structure Precedes (earlier later : Extent) : Prop where
  starts : earlier.first ≤ later.first
  ends : earlier.last ≤ later.first

instance (inner outer : Extent) : Decidable (inner.Within outer) :=
  decidable_of_iff
    (outer.first ≤ inner.first ∧ inner.first ≤ outer.last ∧ inner.last ≤ outer.last)
    ⟨fun all => ⟨all.1, all.2.1, all.2.2⟩, fun all => ⟨all.starts, all.reached, all.ends⟩⟩

instance (earlier later : Extent) : Decidable (earlier.Precedes later) :=
  decidable_of_iff (earlier.first ≤ later.first ∧ earlier.last ≤ later.first)
    ⟨fun both => ⟨both.1, both.2⟩, fun both => ⟨both.starts, both.ends⟩⟩

theorem Within.trans {inner middle outer : Extent} (first : inner.Within middle)
    (second : middle.Within outer) : inner.Within outer where
  starts := Nat.le_trans second.starts first.starts
  reached := Nat.le_trans first.reached second.ends
  ends := Nat.le_trans first.ends second.ends

end Extent

namespace SyntaxNode

def bytes (node : SyntaxNode) : Extent := ⟨node.startByte, node.endByte⟩

def rows (node : SyntaxNode) : Extent := ⟨node.start.row, node.stop.row⟩

end SyntaxNode

namespace SyntaxTree

mutual

/-- Every child lies within its parent, and of two siblings the first precedes the second. They may
touch, and they may share a row. -/
def Nested (extent : SyntaxNode → Extent) : SyntaxTree → Prop
  | .node top children =>
      (∀ child ∈ children, (extent child.root).Within (extent top)) ∧
        children.Pairwise (fun first second =>
          (extent first.root).Precedes (extent second.root)) ∧
        NestedAll extent children

def NestedAll (extent : SyntaxNode → Extent) : List SyntaxTree → Prop
  | [] => True
  | tree :: rest => Nested extent tree ∧ NestedAll extent rest

end

mutual

def decideNested (extent : SyntaxNode → Extent) :
    (tree : SyntaxTree) → Decidable (tree.Nested extent)
  | .node _ children =>
      have := decideNestedAll extent children
      inferInstanceAs (Decidable (_ ∧ _ ∧ NestedAll extent children))

def decideNestedAll (extent : SyntaxNode → Extent) :
    (trees : List SyntaxTree) → Decidable (NestedAll extent trees)
  | [] => inferInstanceAs (Decidable True)
  | tree :: rest =>
      have := decideNested extent tree
      have := decideNestedAll extent rest
      inferInstanceAs (Decidable (tree.Nested extent ∧ NestedAll extent rest))

end

instance (extent : SyntaxNode → Extent) (tree : SyntaxTree) : Decidable (tree.Nested extent) :=
  decideNested extent tree

section Order

variable (extent : SyntaxNode → Extent)

def Covers (tree : SyntaxTree) (node : SyntaxNode) : Prop :=
  node = tree.root ∨ (extent node).Within (extent tree.root)

variable {extent}

theorem Covers.starts {tree : SyntaxTree} {node : SyntaxNode} (covered : tree.Covers extent node) :
    (extent tree.root).first ≤ (extent node).first := by
  rcases covered with rfl | within
  · exact Nat.le_refl _
  · exact within.starts

theorem Covers.starts_before {tree : SyntaxTree} {node : SyntaxNode}
    (covered : tree.Covers extent node) {next : Extent}
    (precedes : (extent tree.root).Precedes next) : (extent node).first ≤ next.first := by
  rcases covered with rfl | within
  · exact precedes.starts
  · exact Nat.le_trans within.reached precedes.ends

mutual

theorem nodes_covered : ∀ tree : SyntaxTree, tree.Nested extent →
    ∀ piece ∈ tree.nodes, tree.Covers extent piece
  | .node top children, nested, piece, member => by
      obtain ⟨inside, -, below⟩ := nested
      rcases List.mem_cons.mp member with rfl | member
      · exact .inl rfl
      · obtain ⟨child, present, covered⟩ := nodesAll_covered children below piece member
        have within := inside child present
        rcases covered with rfl | deeper
        · exact .inr within
        · exact .inr (deeper.trans within)

theorem nodesAll_covered : ∀ trees : List SyntaxTree, NestedAll extent trees →
    ∀ piece ∈ nodesAll trees, ∃ tree ∈ trees, tree.Covers extent piece
  | [], _, _, member => by cases member
  | tree :: rest, nested, piece, member => by
      rcases List.mem_append.mp member with here | later
      · exact ⟨tree, List.mem_cons_self, nodes_covered tree nested.1 piece here⟩
      · obtain ⟨other, present, covered⟩ := nodesAll_covered rest nested.2 piece later
        exact ⟨other, List.mem_cons_of_mem tree present, covered⟩

end

mutual

theorem nodes_ascend : ∀ tree : SyntaxTree, tree.Nested extent →
    tree.nodes.Pairwise fun first second => (extent first).first ≤ (extent second).first
  | .node top children, nested => by
      obtain ⟨inside, ordered, below⟩ := nested
      refine List.pairwise_cons.mpr ⟨?_, nodesAll_ascend children ordered below⟩
      intro node member
      obtain ⟨child, present, covered⟩ := nodesAll_covered children below node member
      exact Nat.le_trans (inside child present).starts covered.starts

theorem nodesAll_ascend : ∀ trees : List SyntaxTree,
    trees.Pairwise (fun first second => (extent first.root).Precedes (extent second.root)) →
    NestedAll extent trees →
    (nodesAll trees).Pairwise fun first second => (extent first).first ≤ (extent second).first
  | [], _, _ => .nil
  | tree :: rest, ordered, nested => by
      obtain ⟨precedes, ordered⟩ := List.pairwise_cons.mp ordered
      refine List.pairwise_append.mpr
        ⟨nodes_ascend tree nested.1, nodesAll_ascend rest ordered nested.2, ?_⟩
      intro node here other later
      obtain ⟨next, present, covered⟩ := nodesAll_covered rest nested.2 other later
      have first := (nodes_covered tree nested.1 node here).starts_before (precedes next present)
      exact Nat.le_trans first covered.starts

end

end Order

mutual

theorem outlines_spans (grammar : Grammar) (source : Bytes) : ∀ tree : SyntaxTree,
    ((Outline.preorderAll (tree.outlines grammar source)).map Construct.span).Sublist
      (tree.nodes.map fun node => some node.span)
  | .node top children => by
      have below := outlinesAll_spans grammar source children
      simp only [outlines, nodes, List.map_cons]
      split
      · exact List.nil_sublist _
      · split
        · exact below.cons _
        · split
          · exact List.nil_sublist _
          · simp only [Outline.preorderAll, Outline.preorder, List.append_nil, List.map_cons]
            exact below.cons_cons _

theorem outlinesAll_spans (grammar : Grammar) (source : Bytes) : ∀ trees : List SyntaxTree,
    ((Outline.preorderAll (outlinesAll grammar source trees)).map Construct.span).Sublist
      ((nodesAll trees).map fun node => some node.span)
  | [] => .slnil
  | tree :: rest => by
      simp only [outlinesAll, Outline.preorderAll_append, nodesAll, List.map_append]
      exact (outlines_spans grammar source tree).append (outlinesAll_spans grammar source rest)

end

end SyntaxTree

theorem Grammar.lower_spans (grammar : Grammar) (source : Bytes) (tree : SyntaxTree) :
    ((grammar.lower source tree).outline.placed.map Construct.span).Sublist
      (tree.nodes.map fun node => some node.span) := by
  obtain ⟨top, children⟩ := tree
  have below := SyntaxTree.outlinesAll_spans grammar source children
  rw [grammar.lower_eq, Outline.placed, Outline.preorder]
  -- the construct that stands for the file has no span
  exact ((List.filter_sublist.map _).trans below).cons _

/-- When a measure of the spans does not fall along the nodes in document order, it does not fall
along the constructs. -/
theorem Grammar.lower_ascend (grammar : Grammar) (source : Bytes) (tree : SyntaxTree)
    (measure : Span → Int)
    (nodes : tree.nodes.Pairwise fun first second => measure first.span ≤ measure second.span) :
    (grammar.lower source tree).outline.placed.Pairwise fun first second =>
      ∀ start ∈ first.span.map measure, ∀ later ∈ second.span.map measure, start ≤ later := by
  have spans : (tree.nodes.map fun node => some node.span).Pairwise fun first second =>
      ∀ start ∈ first.map measure, ∀ later ∈ second.map measure, start ≤ later := by
    rw [List.pairwise_map]
    exact nodes.imp fun {first second} ascends => by simpa using ascends
  exact List.pairwise_map.mp (spans.sublist (grammar.lower_spans source tree))

theorem Grammar.lower_ordered (grammar : Grammar) (source : Bytes) (tree : SyntaxTree)
    (bytes : tree.Nested SyntaxNode.bytes) : (grammar.lower source tree).outline.Ordered := by
  apply grammar.lower_ascend source tree (·.startOffset)
  refine (SyntaxTree.nodes_ascend tree bytes).imp ?_
  intro first second ascends
  exact Int.ofNat_le.mpr ascends

theorem Grammar.lower_lines (grammar : Grammar) (source : Bytes) (tree : SyntaxTree)
    (rows : tree.Nested SyntaxNode.rows) :
    ((grammar.lower source tree).outline.placed.filterMap Construct.startLine?).Pairwise
      (· ≤ ·) := by
  rw [List.pairwise_filterMap]
  apply grammar.lower_ascend source tree (·.startLine)
  refine (SyntaxTree.nodes_ascend tree rows).imp ?_
  intro first second ascends
  exact Int.add_le_add_right (Int.ofNat_le.mpr ascends) 1

theorem eraseDups_ascend (xs : List Int) (ascend : xs.Pairwise (· ≤ ·)) :
    xs.eraseDups.Pairwise (· < ·) := by
  induction xs using List.reverseRecOn with
  | nil => simp
  | append_singleton xs x ih =>
      obtain ⟨before, -, last⟩ := List.pairwise_append.mp ascend
      rw [eraseDups_concat]
      split
      · exact ih before
      · rename_i absent
        refine List.pairwise_append.mpr ⟨ih before, List.pairwise_singleton _ x, ?_⟩
        intro y member z single
        have present : y ∈ xs := List.mem_eraseDups.mp member
        have apart : y ≠ x := fun same => absent (same ▸ present)
        have upTo := last y present x List.mem_cons_self
        rw [List.mem_singleton.mp single]
        omega

/-- In a tree nested by bytes and by rows the index lists its lines from the first to the last, no
construct of a bucket starts before an earlier one, and the first construct of a line is one that
starts at the least offset among all that start on the line. -/
theorem index_follows_source (grammar : Grammar) (source : Bytes) (tree : SyntaxTree)
    (bytes : tree.Nested SyntaxNode.bytes) (rows : tree.Nested SyntaxNode.rows) :
    let outline := (grammar.lower source tree).outline
    let index := LineIndex.ofOutline outline
    index.lines.Pairwise (· < ·) ∧
      (∀ entry ∈ index.buckets, entry.2.Pairwise Construct.NotAfter) ∧
      ∀ line,
        (∀ first, index.firstAt? line = some first →
          first ∈ outline.placed ∧ first.StartsOn line ∧
            ∀ other ∈ outline.placed, other.StartsOn line → first.NotAfter other) ∧
        (index.firstAt? line = none ↔ ¬ AnyStartsOn outline.placed line) := by
  intro outline index
  have ordered : outline.Ordered := grammar.lower_ordered source tree bytes
  have lines : index.lines = _ := LineIndex.lines_placed outline
  refine ⟨?_, ?_, ?_⟩
  · rw [lines]
    exact eraseDups_ascend _ (grammar.lower_lines source tree rows)
  · intro entry member
    have distinct : index.lines.Nodup := lines ▸ nodup_eraseDups _
    rw [index.buckets_eq distinct] at member
    obtain ⟨line, -, rfl⟩ := List.mem_map.mp member
    have bucket : index.atLine line = _ := LineIndex.atLine_placed outline line
    simp only [bucket]
    exact ordered.sublist List.filter_sublist
  · intro line
    have head : index.firstAt? line = outline.placed.find? (Construct.StartsOn line ·) := by
      rw [LineIndex.firstAt?, LineIndex.atLine_ofOutline, head_startingOn]
    rw [head]
    refine ⟨?_, find_startsOn_eq_none outline.placed line⟩
    intro first found
    have isFirst := (isFirst_iff_find outline.placed (Construct.StartsOn line) first).mpr found
    exact ⟨isFirst.mem, isFirst.holds, ordered.nearest _ first isFirst⟩

theorem index_follows_source_spliced :
    let token := fun (named : Bool) (type : Text) (byte row column : Nat) =>
      SyntaxTree.node ⟨type, none, named, false, byte, byte + 1, ⟨row, column⟩, ⟨row, column + 1⟩⟩
        []
    let statement := fun (byte row column : Nat) =>
      SyntaxTree.node
        ⟨"expression_statement".toList, none, true, false, byte, byte + 2, ⟨row, column⟩,
          ⟨row, column + 2⟩⟩
        [token true "identifier".toList byte row column,
          token false ";".toList (byte + 1) row (column + 1)]
    let tree := SyntaxTree.node
      ⟨"program".toList, none, true, false, 0, 14, ⟨0, 0⟩, ⟨3, 0⟩⟩
      [statement 0 0 0, statement 3 0 3,
        .node ⟨"comment".toList, none, true, false, 6, 10, ⟨1, 0⟩, ⟨1, 4⟩⟩ [], statement 11 2 0]
    let outline :=
      (Language.javascript.grammar.lower (Utf8.encode "a; b;\n// c\nd;\n".toList) tree).outline
    let index := LineIndex.ofOutline outline
    tree.Nested SyntaxNode.bytes ∧ tree.Nested SyntaxNode.rows ∧
      index.lines.length = 2 ∧ index.lines.Pairwise (· < ·) ∧
      ∃ first, index.firstAt? 1 = some first ∧ first.span = some ⟨1, 0, 1, 1, 0, 1⟩ ∧
        ∀ other ∈ outline.placed, other.StartsOn 1 → first.NotAfter other := by
  intro token statement tree outline index
  have bytes : tree.Nested SyntaxNode.bytes := by decide +kernel
  have rows : tree.Nested SyntaxNode.rows := by decide +kernel
  have first : (index.firstAt? 1).map Construct.span = some (some ⟨1, 0, 1, 1, 0, 1⟩) := by
    decide +kernel
  obtain ⟨construct, found, span⟩ := Option.map_eq_some_iff.mp first
  obtain ⟨ascend, -, least⟩ := index_follows_source Language.javascript.grammar _ tree bytes rows
  exact ⟨bytes, rows, by decide +kernel, ascend, construct, found, span,
    ((least 1).1 construct found).2.2⟩

end Restatement
