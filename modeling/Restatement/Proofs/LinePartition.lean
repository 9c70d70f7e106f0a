import Mathlib.Data.List.Induction
import Mathlib.Data.List.Nodup
import Restatement.Proofs.Pairing

/-!
The line index of an outline parts the constructs that have a span by the line on which they start.
The walk adds one construct after the other in pre-order, and each construct that is added extends
the partition of those before it.
-/

namespace Restatement

theorem eraseDups_concat {α : Type} [BEq α] [LawfulBEq α] (xs : List α) (x : α) :
    (xs ++ [x]).eraseDups = if x ∈ xs then xs.eraseDups else xs.eraseDups ++ [x] := by
  rw [List.eraseDups_append]
  by_cases present : x ∈ xs
  · simp [List.removeAll, present]
  · simp [List.removeAll, present, List.eraseDups_cons]

theorem nodup_eraseDups {α : Type} [BEq α] [LawfulBEq α] (xs : List α) : xs.eraseDups.Nodup := by
  induction xs using List.reverseRecOn with
  | nil => simp
  | append_singleton xs x ih =>
      rw [eraseDups_concat]
      split
      · exact ih
      · rename_i absent
        have fresh : x ∉ xs.eraseDups := fun member => absent (List.mem_eraseDups.mp member)
        rw [← List.concat_eq_append]
        exact ih.concat fresh

namespace LineIndex

theorem lines_addTo (line : Int) (construct : Construct) (buckets : List (Int × List Construct)) :
    (addTo line construct buckets).map (·.1) =
      if line ∈ buckets.map (·.1) then buckets.map (·.1) else buckets.map (·.1) ++ [line] := by
  induction buckets with
  | nil => rfl
  | cons entry rest ih =>
      obtain ⟨other, bucket⟩ := entry
      by_cases here : other = line
      · simp [addTo, here]
      · have apart : ¬ line = other := fun same => here same.symm
        simp only [addTo, if_neg here, List.map_cons, ih, List.mem_cons, apart, false_or]
        split <;> rfl

theorem contents_addTo (line : Int) (construct : Construct)
    (buckets : List (Int × List Construct)) :
    ((addTo line construct buckets).flatMap (·.2)).Perm
      (buckets.flatMap (·.2) ++ [construct]) := by
  induction buckets with
  | nil => exact .refl _
  | cons entry rest ih =>
      obtain ⟨other, bucket⟩ := entry
      by_cases here : other = line
      · simp only [addTo, if_pos here, List.flatMap_cons, List.append_assoc]
        exact List.perm_append_comm.append_left bucket
      · simp only [addTo, if_neg here, List.flatMap_cons, List.append_assoc]
        exact ih.append_left bucket

/-- What an index says of the constructs that were added to it, in the order in which they were. -/
structure Holds (index : LineIndex) (added : List Construct) : Prop where
  lines : index.lines = (added.filterMap Construct.startLine?).eraseDups
  contents : (index.buckets.flatMap (·.2)).Perm (added.filter (·.span.isSome))
  count : index.constructCount = (added.filter (·.span.isSome)).length

theorem add_of_unplaced (index : LineIndex) (construct : Construct)
    (unplaced : construct.span = none) : index.add construct = index := by
  rw [add, Construct.startLine?, unplaced]
  rfl

theorem foldl_placed (constructs : List Construct) (index : LineIndex) :
    (constructs.filter (·.span.isSome)).foldl add index = constructs.foldl add index := by
  rw [List.foldl_filter]
  congr 1
  funext index construct
  cases span : construct.span with
  | none => simp [index.add_of_unplaced construct span]
  | some place => rfl

theorem holds_add {index : LineIndex} {added : List Construct} (held : index.Holds added)
    (construct : Construct) : (index.add construct).Holds (added ++ [construct]) := by
  cases span : construct.span with
  | none =>
      have start : construct.startLine? = none := by rw [Construct.startLine?, span]; rfl
      rw [index.add_of_unplaced construct span]
      exact ⟨by simpa [start] using held.lines, by simpa [span] using held.contents,
        by simpa [span] using held.count⟩
  | some place =>
      have start : construct.startLine? = some place.startLine := by
        rw [Construct.startLine?, span]; rfl
      have grown : index.add construct =
          ⟨addTo place.startLine construct index.buckets, index.constructCount + 1⟩ := by
        rw [add, start]
      refine ⟨?_, ?_, ?_⟩
      · have known : index.buckets.map (·.1) = _ := held.lines
        simp only [grown, LineIndex.lines, lines_addTo, known, List.filterMap_append,
          List.filterMap_cons, start, List.filterMap_nil, eraseDups_concat, List.mem_eraseDups]
      · have more := contents_addTo place.startLine construct index.buckets
        simp only [grown, List.filter_append, List.filter_cons, span,
          Option.isSome_some, if_true, List.filter_nil]
        exact more.trans (held.contents.append_right [construct])
      · simp [grown, held.count, span]

theorem holds_foldl (constructs : List Construct) :
    (constructs.foldl add empty).Holds constructs := by
  induction constructs using List.reverseRecOn with
  | nil => exact ⟨rfl, .refl _, rfl⟩
  | append_singleton before construct ih =>
      rw [List.foldl_concat]
      exact holds_add ih construct

/-- The walk with a stack adds the constructs in the order of the recursion. -/
theorem addAll_eq_foldl (index : LineIndex) (stack : List Outline) :
    index.addAll stack = (Outline.preorderAll stack).foldl add index := by
  fun_induction addAll index stack with
  | case1 index => rfl
  | case2 index construct children rest ih =>
      rw [ih, Outline.preorderAll_append]
      rfl

theorem ofOutline_eq_foldl (outline : Outline) :
    ofOutline outline = outline.preorder.foldl add empty := by
  rw [ofOutline, addAll_eq_foldl, Outline.preorderAll, Outline.preorderAll, List.append_nil]

theorem buckets_eq (index : LineIndex) (distinct : index.lines.Nodup) :
    index.buckets = index.lines.map fun line => (line, index.atLine line) := by
  obtain ⟨buckets, count⟩ := index
  simp only [lines, List.map_map] at distinct ⊢
  induction buckets with
  | nil => rfl
  | cons entry rest ih =>
      obtain ⟨line, bucket⟩ := entry
      obtain ⟨fresh, distinct⟩ := List.nodup_cons.mp distinct
      have skipped : ∀ other ∈ rest, atLine ⟨(line, bucket) :: rest, count⟩ other.1 =
          atLine ⟨rest, count⟩ other.1 := by
        intro other member
        have listed : other.1 ∈ rest.map (·.1) := List.mem_map_of_mem member
        have apart : (other.1 == line) = false :=
          beq_eq_false_iff_ne.mpr fun same => fresh (same ▸ listed)
        rw [atLine, List.lookup_cons, apart]
        rfl
      rw [List.map_cons]
      congr 1
      · simp [atLine]
      · calc
          rest = rest.map (fun other => (other.1, atLine ⟨rest, count⟩ other.1)) := ih distinct
          _ = _ := List.map_congr_left fun other member => by
            simp [skipped other member]

theorem hasLine_iff (index : LineIndex) (line : Int) :
    index.hasLine line = true ↔ line ∈ index.lines := by
  simp [hasLine, lines]

theorem ofOutline_holds (outline : Outline) : (ofOutline outline).Holds outline.preorder := by
  rw [ofOutline_eq_foldl]
  exact holds_foldl outline.preorder

end LineIndex

theorem Outline.placed_lines (outline : Outline) :
    outline.placed.filterMap Construct.startLine? =
      outline.preorder.filterMap Construct.startLine? := by
  rw [placed, List.filterMap_filter]
  congr 1
  funext construct
  cases span : construct.span <;> simp [Construct.startLine?, span]

theorem mem_startLines_iff (constructs : List Construct) (line : Int) :
    line ∈ constructs.filterMap Construct.startLine? ↔ AnyStartsOn constructs line := by
  simp [AnyStartsOn, Construct.StartsOn]

namespace LineIndex

theorem atLine_placed (outline : Outline) (line : Int) :
    (ofOutline outline).atLine line = outline.placed.filter (Construct.StartsOn line ·) := by
  rw [atLine_ofOutline, startingOn_eq]

theorem lines_placed (outline : Outline) :
    (ofOutline outline).lines = (outline.placed.filterMap Construct.startLine?).eraseDups := by
  rw [(ofOutline_holds outline).lines, outline.placed_lines]

/-- No bucket of an index is empty. -/
theorem hasLine_ofOutline (outline : Outline) (line : Int) :
    (ofOutline outline).hasLine line = true ↔ (ofOutline outline).atLine line ≠ [] := by
  rw [hasLine_iff, lines_placed, List.mem_eraseDups, mem_startLines_iff, atLine_placed]
  simp [AnyStartsOn]

end LineIndex

/-- The walk over an outline ends with every construct that has a span added once, in pre-order.
The lines of the index are those on which the constructs start, in the order in which they first
occur; its buckets are the constructs of each of them, and together all constructs. -/
theorem index_parts_placed (outline : Outline) :
    let index := LineIndex.ofOutline outline
    index = outline.placed.foldl LineIndex.add .empty ∧
      (∀ line, index.atLine line = outline.placed.filter (Construct.StartsOn line ·)) ∧
      index.lines = (outline.placed.filterMap Construct.startLine?).eraseDups ∧
      index.lines.Nodup ∧
      index.buckets = index.lines.map (fun line => (line, index.atLine line)) ∧
      (index.buckets.flatMap (·.2)).Perm outline.placed ∧
      index.constructCount = outline.placed.length ∧
      ∀ line,
        (index.hasLine line = true ↔ index.atLine line ≠ []) ∧
          index.firstAt? line = (index.atLine line).head? := by
  intro index
  have held := LineIndex.ofOutline_holds outline
  have lines : index.lines = _ := LineIndex.lines_placed outline
  have distinct : index.lines.Nodup := lines ▸ nodup_eraseDups _
  refine ⟨?_, LineIndex.atLine_placed outline, lines, distinct, index.buckets_eq distinct,
    held.contents, held.count, ?_⟩
  · rw [Outline.placed, LineIndex.foldl_placed]
    exact LineIndex.ofOutline_eq_foldl outline
  · intro line
    exact ⟨LineIndex.hasLine_ofOutline outline line, rfl⟩

end Restatement
