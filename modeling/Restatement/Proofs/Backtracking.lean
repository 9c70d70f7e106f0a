import Restatement.Pattern

/-!
What matching by backtracking comes to for the simplest patterns: a text as it stands, a choice of
texts, a copy of a captured text, and as many code points of one sort as there are.
-/

namespace Restatement.Pattern

namespace Place

@[simp] theorem after_step (place : Place) (c : Char) (rest : Text) :
    (place.step c rest).after = rest := rfl

@[simp] theorem position_step (place : Place) (c : Char) (rest : Text) :
    (place.step c rest).position = place.position + 1 := rfl

@[simp] theorem after_forward (count : Nat) (place : Place) :
    (place.forward count).after = place.after.drop count := by
  fun_induction forward count place with
  | case1 place => rfl
  | case2 count place empty => rw [empty, List.drop_nil]
  | case3 count place c rest found ih => rw [ih, found, List.drop_succ_cons, after_step]

@[simp] theorem groups_forward (count : Nat) (place : Place) :
    (place.forward count).groups = place.groups := by
  fun_induction forward count place with
  | case1 place => rfl
  | case2 count place empty => rfl
  | case3 count place c rest found ih => exact ih

theorem position_forward (count : Nat) (place : Place) (room : count ≤ place.after.length) :
    (place.forward count).position = place.position + count := by
  fun_induction forward count place with
  | case1 place => rfl
  | case2 count place empty => simp [empty] at room
  | case3 count place c rest found ih =>
      rw [found, List.length_cons] at room
      rw [ih (Nat.le_of_succ_le_succ room), position_step]
      omega

def stops (passes : Char → Bool) (place : Place) : List Place :=
  (List.range ((place.after.takeWhile passes).length + 1)).reverse.map (forward · place)

theorem stops_passing (passes : Char → Bool) (place : Place) (c : Char) (after : Text)
    (next : place.after = c :: after) (holds : passes c = true) :
    place.stops passes = (place.step c after).stops passes ++ [place] := by
  have moved (count : Nat) : place.forward (count + 1) = (place.step c after).forward count := by
    rw [forward, next]
  simp only [stops, next, List.takeWhile_cons, holds, if_true, List.length_cons]
  rw [List.range_succ_eq_map, List.reverse_cons, List.map_append, ← List.map_reverse, List.map_map]
  simp only [Function.comp_def, Nat.succ_eq_add_one, moved]
  rfl

theorem stops_stuck (passes : Char → Bool) (place : Place)
    (stuck : place.after.takeWhile passes = []) : place.stops passes = [place] := by
  simp [stops, stuck, forward]

/-- If nothing can follow while code points pass, only the furthest place counts. -/
theorem findSome_stops (passes : Char → Bool) (rest : Rest) (place : Place)
    (blocked : ∀ found : Place, ∀ c after, found.after = c :: after → passes c = true →
      rest found = none) :
    (place.stops passes).findSome? rest =
      rest (place.forward (place.after.takeWhile passes).length) := by
  have earlier : ∀ found ∈ (List.range (place.after.takeWhile passes).length).reverse.map
      (forward · place), rest found = none := by
    intro found member
    obtain ⟨count, before, rfl⟩ := List.mem_map.mp member
    have inside : count < (place.after.takeWhile passes).length := by simpa using before
    have room : count < place.after.length :=
      Nat.lt_of_lt_of_le inside (List.takeWhile_prefix passes).length_le
    refine blocked _ place.after[count] (place.after.drop (count + 1)) ?_ ?_
    · rw [after_forward, List.drop_eq_getElem_cons room]
    · rw [← (List.takeWhile_prefix passes).getElem inside]
      exact List.all_eq_true.mp List.all_takeWhile _ (List.getElem_mem inside)
  rw [stops, List.range_succ, List.reverse_append, List.map_append, List.findSome?_append,
    List.findSome?_eq_none_iff.mpr earlier, Option.or_none]
  simp

end Place

def passing (passes : Char → Bool) : Round := fun rest place =>
  match place.after with
  | [] => none
  | c :: after => if passes c then rest (place.step c after) else none

theorem asMany_passing (passes : Char → Bool) (rest : Rest) (fuel : Nat) (last : Option Nat)
    (place : Place) (enough : place.after.length < fuel) (fresh : last ≠ some place.position) :
    asMany (passing passes) fuel none last rest place = (place.stops passes).findSome? rest := by
  induction fuel generalizing last place with
  | zero => omega
  | succ fuel ih =>
      cases next : place.after with
      | nil =>
          rw [place.stops_stuck passes (by rw [next]; rfl)]
          simp [asMany, passing, next]
      | cons c after =>
          cases holds : passes c with
          | false =>
              rw [place.stops_stuck passes (by simp [next, holds])]
              simp [asMany, passing, next, holds]
          | true =>
              rw [next, List.length_cons] at enough
              -- one code point further on, the last round began at this place
              have further := ih (some place.position) (place.step c after)
                (by simpa [Place.step] using enough) (by simp [Place.step])
              rw [place.stops_passing passes c after next holds, List.findSome?_append, ← further]
              simp only [asMany, fresh, passing, next, holds, roomLeft, reduceCtorEq, if_true,
                List.findSome?_cons, List.findSome?_nil, decide_false, Bool.or_self,
                Bool.false_eq_true, if_false]
              cases asMany (passing passes) fuel none (some place.position) rest
                  (place.step c after) with
              | some found => rfl
              | none => cases rest place <;> rfl

theorem run_oneOf (chars : CharClass) (flags : Flags) :
    (Node.oneOf chars).run flags = passing (chars.accepts flags) := by
  funext rest place
  cases next : place.after <;> simp only [Node.run, passing, next]

theorem run_any (flags : Flags) (all : flags.dotAll = true) :
    Node.any.run flags = passing fun _ => true := by
  funext rest place
  cases next : place.after <;> simp only [Node.run, passing, next, all, Bool.true_or]

/-- As many code points as possible are taken first, then fewer, until the rest can follow. -/
theorem run_greedy (body : Node) (flags : Flags) (passes : Char → Bool)
    (single : body.run flags = passing passes) (rest : Rest) (place : Place) :
    (Node.repetition .greedy 0 none body).run flags rest place =
      (place.stops passes).findSome? rest := by
  rw [Node.run, times, single]
  exact asMany_passing passes rest _ none place (by omega) (by simp)

theorem run_choice (first second : Node) (flags : Flags) (rest : Rest) (place : Place) :
    (Node.choice first second).run flags rest place =
      (first.run flags rest place).or (second.run flags rest place) := by
  rw [Node.run]
  cases first.run flags rest place <;> rfl

def Node.ofText (t : Text) : Node := .ofSequence (t.map fun c => .literal c.toNat)

theorem literal_accepts (flags : Flags) (sensitive : flags.ignoreCase = false) (c d : Char) :
    CharClass.accepts flags ⟨false, [.point c.toNat]⟩ d = (c == d) := by
  have same : (d.toNat = c.toNat) ↔ c = d := by
    rw [Char.toNat_inj]
    exact eq_comm
  simp [CharClass.accepts, itemsAccept, sensitive, ClassItem.accepts, same, BEq.beq]

theorem run_ofText (t : Text) (flags : Flags) (sensitive : flags.ignoreCase = false) (rest : Rest)
    (place : Place) :
    (Node.ofText t).run flags rest place =
      if t.isPrefixOf place.after then rest (place.forward t.length) else none := by
  induction t generalizing place with
  | nil => simp [Node.ofText, Node.ofSequence, Node.run, Place.forward]
  | cons c t ih =>
      have first : (Node.ofText (c :: t)).run flags rest place =
          passing (CharClass.accepts flags ⟨false, [.point c.toNat]⟩)
            ((Node.ofText t).run flags rest) place := by
        rw [← run_oneOf]
        rfl
      rw [first, passing]
      cases next : place.after with
      | nil => simp
      | cons d after =>
          simp only [literal_accepts flags sensitive, ih, Place.after_step, List.isPrefixOf_cons_cons,
            List.length_cons, Place.forward, next]
          cases c == d <;> simp

def Node.ofTexts (first : Text) : List Text → Node
  | [] => .ofText first
  | next :: others => .choice (.ofText first) (.ofTexts next others)

theorem run_ofTexts (first : Text) (others : List Text) (flags : Flags)
    (sensitive : flags.ignoreCase = false) (rest : Rest) (place : Place) :
    (Node.ofTexts first others).run flags rest place =
      (first :: others).findSome? fun t =>
        if t.isPrefixOf place.after then rest (place.forward t.length) else none := by
  induction others generalizing first with
  | nil =>
      rw [Node.ofTexts, run_ofText first flags sensitive]
      simp
  | cons next others ih =>
      rw [Node.ofTexts, run_choice, run_ofText first flags sensitive, ih,
        ← List.singleton_append (x := first), List.findSome?_append]
      simp

theorem afterCopy_eq (flags : Flags) (sensitive : flags.ignoreCase = false) (copy t : Text) :
    afterCopy? flags copy t = if copy.isPrefixOf t then some copy.length else none := by
  induction copy generalizing t with
  | nil => simp [afterCopy?]
  | cons a copy ih =>
      cases t with
      | nil => simp [afterCopy?]
      | cons b t =>
          simp only [afterCopy?, sensitive, Bool.false_eq_true, if_false, ih,
            List.isPrefixOf_cons_cons, List.length_cons]
          by_cases same : a = b
          · by_cases others : copy.isPrefixOf t = true
            · simp [same, others]
            · simp [same, others]
          · simp [same]

theorem run_backReference (group : Nat) (width : Width) (flags : Flags)
    (sensitive : flags.ignoreCase = false) (copy : Text) (rest : Rest) (place : Place)
    (captured : place.groups.lookup group = some copy) :
    (Node.backReference group width).run flags rest place =
      if copy.isPrefixOf place.after then rest (place.forward copy.length) else none := by
  rw [Node.run, captured]
  simp only [afterCopy_eq flags sensitive]
  cases copy.isPrefixOf place.after <;> rfl

def group? (pattern : Pattern) (group : Nat) (t : Text) : Option Text :=
  (pattern.node.run pattern.flags some (.start t)).bind fun place => place.groups.lookup group

end Restatement.Pattern
