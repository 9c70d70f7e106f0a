import Restatement.LineIndex

/-!
The constructs of an outline with every parent before its children, and what a line index built
from the outline holds at a line: those of them that start there, in that order.
-/

namespace Restatement

namespace Outline

mutual

def preorder : Outline → List Construct
  | .node construct children => construct :: preorderAll children

def preorderAll : List Outline → List Construct
  | [] => []
  | outline :: rest => preorder outline ++ preorderAll rest

end

theorem preorderAll_append (first second : List Outline) :
    preorderAll (first ++ second) = preorderAll first ++ preorderAll second := by
  induction first with
  | nil => rfl
  | cons outline rest ih => simp only [List.cons_append, preorderAll, ih, List.append_assoc]

def startingOn (outline : Outline) (line : Int) : List Construct :=
  outline.preorder.filter fun construct => construct.startLine? = some line

end Outline

namespace LineIndex

theorem lookup_addTo (line : Int) (construct : Construct) (buckets : List (Int × List Construct))
    (other : Int) :
    (addTo line construct buckets).lookup other =
      if other = line then some ((buckets.lookup line).getD [] ++ [construct])
      else buckets.lookup other := by
  induction buckets with
  | nil =>
      by_cases same : other = line
      · simp [addTo, same]
      · simp [addTo, same]
  | cons entry rest ih =>
      obtain ⟨first, bucket⟩ := entry
      by_cases here : first = line
      · subst here
        by_cases same : other = first
        · simp [addTo, same]
        · simp [addTo, same, List.lookup_cons, beq_eq_false_iff_ne.mpr same]
      · have apart : (line == first) = false := beq_eq_false_iff_ne.mpr (Ne.symm here)
        simp only [addTo, if_neg here, List.lookup_cons, ih, apart]
        by_cases same : other = line
        · simp [same, apart]
        · simp [same]

theorem atLine_add (index : LineIndex) (construct : Construct) (line : Int) :
    (index.add construct).atLine line =
      index.atLine line ++ [construct].filter fun added => added.startLine? = some line := by
  unfold add
  cases start : construct.startLine? with
  | none => simp [start]
  | some own =>
      simp only [atLine, lookup_addTo]
      by_cases same : line = own
      · simp [same, start]
      · have apart : ¬ own = line := fun equal => same equal.symm
        simp [same, apart, start]

/-- Whatever waits on the stack is added in the order of a recursion over it. -/
theorem atLine_addAll (index : LineIndex) (stack : List Outline) (line : Int) :
    (index.addAll stack).atLine line =
      index.atLine line ++
        (Outline.preorderAll stack).filter fun construct => construct.startLine? = some line := by
  fun_induction addAll index stack with
  | case1 index => simp [Outline.preorderAll]
  | case2 index construct children rest ih =>
      rw [ih, atLine_add, List.append_assoc, ← List.filter_append, Outline.preorderAll_append]
      rfl

theorem atLine_ofOutline (outline : Outline) (line : Int) :
    (ofOutline outline).atLine line = outline.startingOn line := by
  rw [ofOutline, atLine_addAll, Outline.preorderAll, Outline.preorderAll, List.append_nil]
  rfl

end LineIndex

end Restatement
