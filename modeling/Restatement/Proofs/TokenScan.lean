import Restatement.Proofs.TokenLookup

/-!
Looking a token up by halving finds what a scan over all tokens finds. Around an offset the tokens
of a file fall into those that end by it, at most one that it cuts through, and those that start
from it on.
-/

namespace Restatement

theorem filter_append_filter_not {α : Type} (test : α → Bool) (xs : List α)
    (turns : xs.Pairwise fun first second => test second = true → test first = true) :
    xs.filter test ++ xs.filter (fun x => !test x) = xs := by
  induction xs with
  | nil => rfl
  | cons x rest ih =>
      obtain ⟨earlier, turns⟩ := List.pairwise_cons.mp turns
      cases here : test x with
      | true => simp [here, ih turns]
      | false =>
          have fails : ∀ y ∈ rest, test y = false := by
            intro y member
            cases there : test y with
            | false => rfl
            | true =>
                rw [earlier y member there] at here
                cases here
          have nothing : rest.filter test = [] := by simpa using fails
          have everything : rest.filter (fun y => !test y) = rest := by simpa using fails
          simp [here, nothing, everything]

namespace Token

theorem after_append (first second : List Token) (offset : Int)
    (early : ∀ token ∈ first, token.span.startOffset < offset)
    (late : ∀ token ∈ second, offset ≤ token.span.startOffset) :
    after? (first ++ second) offset = second.head? := by
  have point := partitionPoint_append (fun token : Token => token.span.startOffset < offset)
    first second (fun token member => decide_eq_true (early token member))
    (fun token member => decide_eq_false (Int.not_lt.mpr (late token member)))
  rw [after?, point, List.getElem?_append_right (Nat.le_refl _), Nat.sub_self,
    List.head?_eq_getElem?]

def endingBy (tokens : List Token) (offset : Int) : List Token :=
  tokens.filter fun token => token.span.endOffset ≤ offset

def startingFrom (tokens : List Token) (offset : Int) : List Token :=
  tokens.filter fun token => offset ≤ token.span.startOffset

def cutAt (tokens : List Token) (offset : Int) : List Token :=
  tokens.filter fun token => token.span.startOffset < offset ∧ offset < token.span.endOffset

theorem parted_by_end (tokens : List Token) (offset : Int)
    (ascend : (tokens.map (·.span.endOffset)).Pairwise (· ≤ ·)) :
    endingBy tokens offset ++ tokens.filter (fun token => offset < token.span.endOffset) =
      tokens := by
  have parted := filter_append_filter_not (fun token : Token => token.span.endOffset ≤ offset)
    tokens ((List.pairwise_map.mp ascend).imp fun {first second} ordered ends =>
      decide_eq_true (Int.le_trans ordered (of_decide_eq_true ends)))
  simpa [endingBy, ← decide_not] using parted

theorem parted_by_start (tokens : List Token) (offset : Int)
    (ascend : (tokens.map (·.span.startOffset)).Pairwise (· ≤ ·)) :
    tokens.filter (fun token => token.span.startOffset < offset) ++ startingFrom tokens offset =
      tokens := by
  have parted := filter_append_filter_not (fun token : Token => token.span.startOffset < offset)
    tokens ((List.pairwise_map.mp ascend).imp fun {first second} ordered starts =>
      decide_eq_true (Int.lt_of_le_of_lt ordered (of_decide_eq_true starts)))
  simpa [startingFrom, ← decide_not] using parted

theorem before_eq (tokens : List Token) (offset : Int)
    (ascend : (tokens.map (·.span.endOffset)).Pairwise (· ≤ ·)) :
    before? tokens offset = (endingBy tokens offset).getLast? := by
  nth_rewrite 1 [← parted_by_end tokens offset ascend]
  apply before_append
  · intro token member
    exact of_decide_eq_true (List.mem_filter.mp member).2
  · intro token member
    exact of_decide_eq_true (List.mem_filter.mp member).2

theorem after_eq (tokens : List Token) (offset : Int)
    (ascend : (tokens.map (·.span.startOffset)).Pairwise (· ≤ ·)) :
    after? tokens offset = (startingFrom tokens offset).head? := by
  nth_rewrite 1 [← parted_by_start tokens offset ascend]
  apply after_append
  · intro token member
    exact of_decide_eq_true (List.mem_filter.mp member).2
  · intro token member
    exact of_decide_eq_true (List.mem_filter.mp member).2

/-- Tokens with text, of which each ends where the next starts or before it. -/
structure Apart (tokens : List Token) : Prop where
  text : ∀ token ∈ tokens, token.span.startOffset < token.span.endOffset
  gaps : tokens.IsChain fun first second => first.span.endOffset ≤ second.span.startOffset

def Precedes (first second : Token) : Prop :=
  first.span.endOffset ≤ second.span.startOffset ∧
    second.span.startOffset < second.span.endOffset

instance : Trans Precedes Precedes Precedes where
  trans {first middle last} before after := by
    refine ⟨?_, after.2⟩
    calc
      first.span.endOffset ≤ middle.span.startOffset := before.1
      _ ≤ middle.span.endOffset := Int.le_of_lt before.2
      _ ≤ last.span.startOffset := after.1

namespace Apart

variable {tokens : List Token} (apart : Apart tokens)

include apart

theorem pairwise : tokens.Pairwise Precedes := by
  apply List.isChain_iff_pairwise.mp
  apply apart.gaps.imp_of_mem_imp
  intro first second _ member gap
  exact ⟨gap, apart.text second member⟩

theorem ends_ascend : (tokens.map (·.span.endOffset)).Pairwise (· ≤ ·) := by
  refine List.pairwise_map.mpr (apart.pairwise.imp ?_)
  intro first second precedes
  exact Int.le_trans precedes.1 (Int.le_of_lt precedes.2)

theorem starts_ascend : (tokens.map (·.span.startOffset)).Pairwise (· ≤ ·) := by
  refine List.pairwise_map.mpr (apart.pairwise.imp_of_mem ?_)
  intro first second member _ precedes
  exact Int.le_trans (Int.le_of_lt (apart.text first member)) precedes.1

/-- Of two tokens that an offset cuts through the first would end before the second starts. -/
theorem cutAt_length (offset : Int) : (cutAt tokens offset).length ≤ 1 := by
  have separate : (cutAt tokens offset).Pairwise Precedes :=
    apart.pairwise.sublist List.filter_sublist
  have cut : ∀ token ∈ cutAt tokens offset,
      token.span.startOffset < offset ∧ offset < token.span.endOffset := by
    intro token member
    exact of_decide_eq_true (List.mem_filter.mp member).2
  match found : cutAt tokens offset with
  | [] => simp
  | [token] => simp
  | first :: second :: rest =>
      rw [found] at separate cut
      have gap := ((List.pairwise_cons.mp separate).1 second List.mem_cons_self).1
      have early := cut first List.mem_cons_self
      have late := cut second (List.mem_cons_of_mem first List.mem_cons_self)
      omega

theorem parted (offset : Int) :
    endingBy tokens offset ++ cutAt tokens offset ++ startingFrom tokens offset = tokens := by
  let later := tokens.filter fun token => offset < token.span.endOffset
  have ascend : (later.map (·.span.startOffset)).Pairwise (· ≤ ·) :=
    apart.starts_ascend.sublist (List.filter_sublist.map _)
  have cut : later.filter (fun token => token.span.startOffset < offset) =
      cutAt tokens offset := by
    simp [later, cutAt, List.filter_filter]
  have started : startingFrom later offset = startingFrom tokens offset := by
    rw [startingFrom, List.filter_filter]
    apply List.filter_congr
    intro token member
    -- a token with text that starts from the offset on ends after it
    have past : offset ≤ token.span.startOffset → offset < token.span.endOffset :=
      fun starts => Int.lt_of_le_of_lt starts (apart.text token member)
    simpa using past
  have byStart := parted_by_start later offset ascend
  rw [cut, started] at byStart
  rw [List.append_assoc, byStart]
  exact parted_by_end tokens offset apart.ends_ascend

end Apart

end Token

/-- Where the ends of the tokens do not fall, the last token that ends by an offset is found; where
their starts do not fall, the first one that starts from it on. Where tokens with text do not
overlap, nothing stands between the two but a token that the offset cuts through, and there is at
most one. -/
theorem lookup_as_scan (tokens : List Token) (offset : Int) :
    ((tokens.map (·.span.endOffset)).Pairwise (· ≤ ·) →
      Token.before? tokens offset = (Token.endingBy tokens offset).getLast? ∧
        (Token.before? tokens offset = none ↔
          ∀ token ∈ tokens, ¬ token.span.endOffset ≤ offset)) ∧
      ((tokens.map (·.span.startOffset)).Pairwise (· ≤ ·) →
        Token.after? tokens offset = (Token.startingFrom tokens offset).head? ∧
          (Token.after? tokens offset = none ↔
            ∀ token ∈ tokens, ¬ offset ≤ token.span.startOffset)) ∧
      (Token.Apart tokens →
        Token.before? tokens offset = (Token.endingBy tokens offset).getLast? ∧
          Token.after? tokens offset = (Token.startingFrom tokens offset).head? ∧
          tokens = Token.endingBy tokens offset ++ Token.cutAt tokens offset ++
            Token.startingFrom tokens offset ∧
          (Token.cutAt tokens offset).length ≤ 1) := by
  refine ⟨?_, ?_, ?_⟩
  · intro ascend
    have found := Token.before_eq tokens offset ascend
    refine ⟨found, ?_⟩
    rw [found, List.getLast?_eq_none_iff, Token.endingBy, List.filter_eq_nil_iff]
    simp
  · intro ascend
    have found := Token.after_eq tokens offset ascend
    refine ⟨found, ?_⟩
    rw [found, List.head?_eq_none_iff, Token.startingFrom, List.filter_eq_nil_iff]
    simp
  · intro apart
    exact ⟨Token.before_eq tokens offset apart.ends_ascend,
      Token.after_eq tokens offset apart.starts_ascend, (apart.parted offset).symm,
      apart.cutAt_length offset⟩

theorem lookup_as_scan_inside :
    let token := fun (type : Text) (first last : Int) =>
      Token.mk type ⟨1, first, 1, last, first, last⟩
    let left := token "identifier".toList 0 3
    let arrow := token "=>".toList 3 5
    let right := token "identifier".toList 6 7
    let tokens := [left, arrow, right]
    (tokens.map (·.span.endOffset)).Pairwise (· ≤ ·) ∧
      (tokens.map (·.span.startOffset)).Pairwise (· ≤ ·) ∧ Token.Apart tokens ∧
      Token.before? tokens 4 = some left ∧ Token.after? tokens 4 = some right ∧
      tokens = Token.endingBy tokens 4 ++ [arrow] ++ Token.startingFrom tokens 4 := by
  intro token left arrow right tokens
  have ends : (tokens.map (·.span.endOffset)).Pairwise (· ≤ ·) := by decide
  have starts : (tokens.map (·.span.startOffset)).Pairwise (· ≤ ·) := by decide
  have apart : Token.Apart tokens := ⟨by decide, by decide⟩
  obtain ⟨byEnd, byStart, between⟩ := lookup_as_scan tokens 4
  exact ⟨ends, starts, apart, (byEnd ends).1.trans (by decide),
    (byStart starts).1.trans (by decide), (between apart).2.2.1⟩

end Restatement
