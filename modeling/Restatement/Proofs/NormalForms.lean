import Mathlib.Data.List.Basic
import Restatement.Text.NormalForm

/-!
The normal form of a text is its plain runs with one space between each two: the runs of letters and
digits once the text is in lower case. Lower case looks past a letter to tell how a sigma is
written, but never past a space, so that two texts with a space between them have the normal forms
of both.
-/

namespace Restatement.Text

section Joined

variable (separator : Char)

@[simp]
theorem joinWith_nil : joinWith [separator] [] = [] := rfl

@[simp]
theorem joinWith_singleton (part : Text) : joinWith [separator] [part] = part := by
  simp [joinWith]

@[simp]
theorem joinWith_cons_cons (part next : Text) (rest : List Text) :
    joinWith [separator] (part :: next :: rest) =
      part ++ separator :: joinWith [separator] (next :: rest) := by
  simp [joinWith, List.intercalate_cons_cons]

theorem joinWith_append (first second : List Text) (some : first ≠ []) (others : second ≠ []) :
    joinWith [separator] (first ++ second) =
      joinWith [separator] first ++ separator :: joinWith [separator] second := by
  induction first with
  | nil => exact absurd rfl some
  | cons part rest ih =>
      cases rest with
      | nil =>
          obtain ⟨next, more, rfl⟩ := List.exists_cons_of_ne_nil others
          simp
      | cons next rest =>
          have step := ih (List.cons_ne_nil next rest)
          simp only [List.cons_append] at step ⊢
          simp [step]

theorem joinWith_eq_nil_iff (parts : List Text) (nonempty : ∀ part ∈ parts, part ≠ []) :
    joinWith [separator] parts = [] ↔ parts = [] := by
  cases parts with
  | nil => simp
  | cons part rest =>
      have here := nonempty part List.mem_cons_self
      cases rest <;> simp [here]

theorem joinWith_append_texts (first second : List Text) (some : ∀ part ∈ first, part ≠ [])
    (others : ∀ part ∈ second, part ≠ []) :
    joinWith [separator] (first ++ second) =
      joinWith [separator]
        ([joinWith [separator] first, joinWith [separator] second].filter (· ≠ [])) := by
  have left := joinWith_eq_nil_iff separator first some
  have right := joinWith_eq_nil_iff separator second others
  by_cases before : first = []
  · by_cases after : second = []
    · simp [before, after]
    · simp [before, right.not.mpr after]
  · by_cases after : second = []
    · simp [after, left.not.mpr before]
    · rw [joinWith_append separator first second before after]
      simp [left.not.mpr before, right.not.mpr after]

theorem mem_joinWith (parts : List Text) :
    ∀ c ∈ joinWith [separator] parts, c = separator ∨ ∃ part ∈ parts, c ∈ part := by
  induction parts with
  | nil =>
      intro c member
      cases member
  | cons part rest ih =>
      intro c member
      cases rest with
      | nil => exact .inr ⟨part, List.mem_cons_self, by simpa using member⟩
      | cons next rest =>
          rw [joinWith_cons_cons] at member
          rcases List.mem_append.mp member with here | later
          · exact .inr ⟨part, List.mem_cons_self, here⟩
          · rcases List.mem_cons.mp later with between | after
            · exact .inl between
            · rcases ih c after with same | ⟨other, present, inside⟩
              · exact .inl same
              · exact .inr ⟨other, List.mem_cons_of_mem part present, inside⟩

end Joined

section Split

variable (separator : Char)

theorem splitOn_eq (t : Text) :
    splitOn separator t = List.splitOn separator t := by
  induction t with
  | nil => rfl
  | cons c rest ih =>
      rw [splitOn, List.splitOn_eq_splitOnP, List.splitOnP_cons_eq_if_modifyHead,
        ← List.splitOn_eq_splitOnP, ← ih]
      by_cases same : c = separator
      · simp [same]
      · have pieces : splitOn separator rest ≠ [] := ih ▸ List.splitOn_ne_nil separator rest
        cases split : splitOn separator rest with
        | nil => exact absurd split pieces
        | cons piece others => simp [same]

theorem splitOn_append_cons (first second : Text) :
    splitOn separator (first ++ separator :: second) =
      splitOn separator first ++ splitOn separator second := by
  simp only [splitOn_eq, List.splitOn_eq_splitOnP]
  exact List.splitOnP_append_cons first second (by simp)

theorem splitOn_of_clean (t : Text) (clean : separator ∉ t) : splitOn separator t = [t] := by
  rw [splitOn_eq, List.splitOn_eq_splitOnP]
  apply List.splitOnP_eq_singleton
  intro c member
  simpa using fun same : c = separator => clean (same ▸ member)

end Split

section Runs

variable (p : Char → Bool)

theorem runs_cons_fails (c : Char) (rest : Text) (fails : p c = false) :
    runs p (c :: rest) = runs p rest := by
  cases rest <;> simp [runs, fails]

theorem runs_cons_ends (c d : Char) (rest : Text) (passes : p c = true) (fails : p d = false) :
    runs p (c :: d :: rest) = [c] :: runs p (d :: rest) := by
  rw [runs]
  simp [passes, fails]

theorem runs_cons_grows (c d : Char) (rest : Text) (passes : p c = true) (next : p d = true) :
    ∃ run others, runs p (d :: rest) = run :: others ∧
      runs p (c :: d :: rest) = (c :: run) :: others := by
  have started : runs p (d :: rest) ≠ [] := by
    cases rest with
    | nil => simp [runs, next]
    | cons e rest =>
        rw [runs, if_pos next]
        split
        · split <;> simp
        · simp
  obtain ⟨run, others, found⟩ := List.exists_cons_of_ne_nil started
  refine ⟨run, others, found, ?_⟩
  rw [runs]
  simp [passes, next, found]

theorem runs_eq_splitOnP (t : Text) :
    runs p t = (t.splitOnP fun c => !p c).filter fun run => !run.isEmpty := by
  induction t with
  | nil => simp [runs]
  | cons c rest ih =>
      rw [List.splitOnP_cons_eq_if_modifyHead]
      cases passes : p c with
      | false => simp [runs_cons_fails p c rest passes, ih]
      | true =>
          cases rest with
          | nil => simp [runs, passes]
          | cons d rest =>
              rw [List.splitOnP_cons_eq_if_modifyHead] at ih ⊢
              cases next : p d with
              | false => simpa [runs_cons_ends p c d rest passes next, next] using ih
              | true =>
                  obtain ⟨run, others, found, grown⟩ := runs_cons_grows p c d rest passes next
                  obtain ⟨piece, pieces, split⟩ := List.exists_cons_of_ne_nil
                    (List.splitOnP_ne_nil (fun c => !p c) rest)
                  rw [found, split] at ih
                  rw [grown, split]
                  simpa [next] using ih

theorem runs_append_cons (first second : Text) (c : Char) (fails : p c = false) :
    runs p (first ++ c :: second) = runs p first ++ runs p second := by
  simp only [runs_eq_splitOnP]
  rw [List.splitOnP_append_cons first second (by simp [fails]), List.filter_append]

theorem runs_of_passing (word : Text) (passes : ∀ c ∈ word, p c = true) :
    runs p word = [word].filter fun run => !run.isEmpty := by
  rw [runs_eq_splitOnP, List.splitOnP_eq_singleton (by simpa using passes)]

theorem parted_induction {motive : Text → Prop}
    (word : ∀ first, (∀ c ∈ first, p c = true) → motive first)
    (part : ∀ first c rest, (∀ d ∈ first, p d = true) → p c = false → motive rest →
      motive (first ++ c :: rest)) (t : Text) : motive t := by
  -- what has passed so far is carried along
  suffices carried : ∀ first, (∀ c ∈ first, p c = true) → motive (first ++ t) from
    carried [] (List.forall_mem_nil _)
  induction t with
  | nil =>
      intro first passes
      rw [List.append_nil]
      exact word first passes
  | cons c rest ih =>
      intro first passes
      cases here : p c with
      | false => exact part first c rest passes here (ih [] (List.forall_mem_nil _))
      | true =>
          have longer : ∀ d ∈ first ++ [c], p d = true :=
            List.forall_mem_append.mpr ⟨passes, by simpa using here⟩
          simpa using ih (first ++ [c]) longer

theorem mem_runs (t : Text) : ∀ run ∈ runs p t, run ≠ [] ∧ ∀ c ∈ run, p c = true := by
  have whole : ∀ first, (∀ c ∈ first, p c = true) →
      ∀ run ∈ runs p first, run ≠ [] ∧ ∀ c ∈ run, p c = true := by
    intro first passes run member
    rw [runs_of_passing p first passes] at member
    obtain ⟨same, nonempty⟩ := List.mem_filter.mp member
    rw [List.mem_singleton.mp same] at nonempty ⊢
    exact ⟨by simpa using nonempty, passes⟩
  induction t using parted_induction p with
  | word first passes => exact whole first passes
  | part first c rest passes fails ih =>
      rw [runs_append_cons p first rest c fails]
      exact List.forall_mem_append.mpr ⟨whole first passes, ih⟩

theorem runs_map (f : Char → Char) (t : Text) :
    runs p (t.map f) = (runs (fun c => p (f c)) t).map (List.map f) := by
  have whole : ∀ first : Text, (∀ c ∈ first, p (f c) = true) →
      runs p (first.map f) = (runs (fun c => p (f c)) first).map (List.map f) := by
    intro first passes
    rw [runs_of_passing _ first passes, runs_of_passing p (first.map f) (by simpa using passes)]
    cases first <;> rfl
  induction t using parted_induction fun c => p (f c) with
  | word first passes => exact whole first passes
  | part first c rest passes fails ih =>
      rw [List.map_append, List.map_cons, runs_append_cons p _ _ (f c) fails, whole first passes,
        ih, runs_append_cons _ first rest c fails, List.map_append]

theorem runs_joinWith (separator : Char) (fails : p separator = false) (words : List Text)
    (plain : ∀ word ∈ words, word ≠ [] ∧ ∀ c ∈ word, p c = true) :
    runs p (joinWith [separator] words) = words := by
  induction words with
  | nil => rfl
  | cons word rest ih =>
      obtain ⟨⟨nonempty, passes⟩, others⟩ := List.forall_mem_cons.mp plain
      cases rest with
      | nil => simp [runs_of_passing p word passes, nonempty]
      | cons next rest =>
          rw [joinWith_cons_cons, runs_append_cons p _ _ separator fails,
            runs_of_passing p word passes, ih others]
          simp [nonempty]

end Runs

section Blanks

theorem trimEnd_cons (c : Char) (t : Text) :
    trimEnd (c :: t) =
      if trimEnd t = [] then (if isBlank c then [] else [c]) else c :: trimEnd t := by
  simp only [trimEnd, List.reverse_cons, List.dropWhile_append, List.isEmpty_iff,
    List.reverse_eq_nil_iff]
  by_cases bare : List.dropWhile isBlank t.reverse = []
  · cases blank : isBlank c <;> simp [bare, blank]
  · simp [bare]

theorem trimStart_visible (c : Char) (t : Text) (visible : isBlank c = false) :
    trimStart (c :: t) = c :: t := by
  simp [trimStart, visible]

theorem trimStart_blank (c : Char) (t : Text) (blank : isBlank c = true) :
    trimStart (c :: t) = trimStart t := by
  simp [trimStart, blank]

theorem collapseBlanks_visible (c : Char) (t : Text) (visible : isBlank c = false) :
    collapseBlanks (c :: t) = c :: collapseBlanks t := by
  cases t <;> simp [collapseBlanks, visible]

theorem collapseBlanks_lone (c : Char) (blank : isBlank c = true) : collapseBlanks [c] = [' '] := by
  simp [collapseBlanks, blank]

theorem collapseBlanks_blank (c d : Char) (t : Text) (blank : isBlank c = true) :
    collapseBlanks (c :: d :: t) =
      if isBlank d then collapseBlanks (d :: t) else ' ' :: collapseBlanks (d :: t) := by
  rw [collapseBlanks, if_pos blank]

theorem words_blank (c : Char) (t : Text) (blank : isBlank c = true) :
    words (c :: t) = words t :=
  runs_cons_fails _ c t (by simp [blank])

def following : Text → Text
  | [] => []
  | c :: t =>
      if isBlank c && !(words t).isEmpty then ' ' :: joinWith [' '] (words t)
      else joinWith [' '] (words (c :: t))

theorem following_visible (c : Char) (t : Text) (visible : isBlank c = false) :
    following (c :: t) = joinWith [' '] (words (c :: t)) := by
  simp [following, visible]

theorem following_blank (c d : Char) (t : Text) (blank : isBlank c = true)
    (next : isBlank d = true) : following (c :: d :: t) = following (d :: t) := by
  simp only [following, blank, next, words_blank]

theorem joinWith_words_visible (c : Char) (t : Text) (visible : isBlank c = false) :
    joinWith [' '] (words (c :: t)) = c :: following t := by
  have passes : (!isBlank c) = true := by simp [visible]
  cases t with
  | nil => simp [words, runs, visible, following]
  | cons d t =>
      cases blank : isBlank d with
      | true =>
          rw [words, runs_cons_ends _ c d t passes (by simp [blank])]
          change joinWith [' '] ([c] :: words (d :: t)) = c :: following (d :: t)
          rw [words_blank d t blank, following, words_blank d t blank]
          cases words t with
          | nil => simp
          | cons word rest => simp [blank]
      | false =>
          obtain ⟨run, others, found, grown⟩ :=
            runs_cons_grows (fun c => !isBlank c) c d t passes (by simp [blank])
          rw [following_visible d t blank, words, words, grown, found]
          cases others <;> simp

theorem trimEnd_collapseBlanks (t : Text) : trimEnd (collapseBlanks t) = following t := by
  induction t with
  | nil => rfl
  | cons c rest ih =>
      cases blank : isBlank c with
      | false =>
          rw [collapseBlanks_visible c rest blank, trimEnd_cons, ih,
            following_visible c rest blank, joinWith_words_visible c rest blank]
          cases following rest <;> simp [blank]
      | true =>
          cases rest with
          | nil =>
              rw [collapseBlanks_lone c blank, following, words_blank c [] blank, blank]
              rfl
          | cons d rest =>
              rw [collapseBlanks_blank c d rest blank]
              cases next : isBlank d with
              | true => rw [if_pos rfl, ih, following_blank c d rest blank next]
              | false =>
                  have visible := joinWith_words_visible d rest next
                  have found : (words (d :: rest)).isEmpty = false := by
                    rw [List.isEmpty_eq_false_iff]
                    intro none
                    rw [none] at visible
                    cases visible
                  rw [if_neg Bool.false_ne_true, trimEnd_cons, ih, following_visible d rest next,
                    following, visible]
                  simp [blank, found]

/-- Blanks made one space and trimmed leave the words with one space between each two. -/
theorem trim_collapseBlanks (t : Text) : trim (collapseBlanks t) = joinWith [' '] (words t) := by
  induction t with
  | nil => rfl
  | cons c rest ih =>
      cases blank : isBlank c with
      | false =>
          rw [trim, collapseBlanks_visible c rest blank, trimStart_visible _ _ blank,
            ← collapseBlanks_visible c rest blank, trimEnd_collapseBlanks,
            following_visible c rest blank]
      | true =>
          rw [words_blank c rest blank, ← ih]
          cases rest with
          | nil =>
              rw [collapseBlanks_lone c blank]
              rfl
          | cons d rest =>
              rw [collapseBlanks_blank c d rest blank]
              split
              · rfl
              · rw [trim, trimStart_blank ' ' _ (by decide)]
                rfl

end Blanks

section Plain

theorem toNat_of_plain (c : Char) (plain : isPlain c = true) :
    (97 ≤ c.toNat ∧ c.toNat ≤ 122) ∨ (48 ≤ c.toNat ∧ c.toNat ≤ 57) := by
  simpa [isPlain, Char.le_def, UInt32.le_iff_toNat_le] using plain

theorem isBlank_of_plain (c : Char) (plain : isPlain c = true) : isBlank c = false := by
  have place := toNat_of_plain c plain
  -- between the space and the next blank
  rw [isBlank, blankRanges, Ranges.has, if_neg (by omega), if_neg (by omega), Ranges.has,
    if_neg (by omega), if_neg (by omega), Ranges.has, if_pos (by omega)]

theorem isBlank_mask (c : Char) : isBlank (mask c) = !isPlain c := by
  unfold mask
  cases plain : isPlain c with
  | true => simp [isBlank_of_plain c plain]
  | false =>
      cases blank : isBlank c with
      | true => simpa using blank
      | false => rfl

theorem mask_of_plain (c : Char) (plain : isPlain c = true) : mask c = c := by
  simp [mask, plain]

theorem words_map_mask (t : Text) : words (t.map mask) = runs isPlain t := by
  have shown : (fun c => !isBlank (mask c)) = isPlain := by
    funext c
    simp [isBlank_mask]
  rw [words, runs_map, shown]
  calc
    (runs isPlain t).map (List.map mask) = (runs isPlain t).map id := by
      apply List.map_congr_left
      intro run member
      have plain := (mem_runs isPlain t run member).2
      calc
        run.map mask = run.map id :=
          List.map_congr_left fun c inside => mask_of_plain c (plain c inside)
        _ = run := List.map_id run
    _ = runs isPlain t := List.map_id _

theorem normalize_eq (t : Text) : normalize t = joinWith [' '] (runs isPlain (lower t)) := by
  rw [normalize, trim_collapseBlanks, words_map_mask]

end Plain

section Lowered

/-- The code points before the capitals and between them and the first letter past ASCII that has a
capital. Letters and digits of normal forms are among them, and the space is. -/
def IsLow (c : Char) : Prop := c.toNat < 65 ∨ (90 < c.toNat ∧ c.toNat < 192)

theorem isLow_of_plain (c : Char) (plain : isPlain c = true) : IsLow c := by
  have place := toNat_of_plain c plain
  unfold IsLow
  omega

theorem isLow_space : IsLow ' ' := .inl (by decide)

theorem lowerChar_of_low (c : Char) (low : IsLow c) : lowerChar c = c := by
  have kept : shiftBy lowerShifts c.toNat = c.toNat := by
    rw [lowerShifts, shiftBy]
    rcases low with before | ⟨after, before⟩
    · rw [if_pos before]
    · have uncovered : Shift.covers ⟨65, 90, 1, 32⟩ c.toNat = false := by
        simp [Shift.covers, Nat.not_le.mpr after]
      rw [if_neg (by simp only; omega), uncovered, if_neg Bool.false_ne_true, shiftBy,
        if_pos before]
  rw [lowerChar, kept, Char.ofNat_toNat]

theorem lowerAfter_cons_of_low (cased : Bool) (c : Char) (rest : Text) (low : IsLow c) :
    lowerAfter cased (c :: rest) =
      c :: lowerAfter (if isCaseIgnorable c then cased else isCased c) rest := by
  have high : ¬ IsLow capitalSigma ∧ ¬ IsLow capitalDottedI := by
    unfold IsLow
    decide
  have sigma : c ≠ capitalSigma := fun same => high.1 (same ▸ low)
  have dotted : c ≠ capitalDottedI := fun same => high.2 (same ▸ low)
  simp [lowerAfter, sigma, dotted, lowerChar_of_low c low]

theorem lowerAfter_of_low (cased : Bool) (t : Text) (low : ∀ c ∈ t, IsLow c) :
    lowerAfter cased t = t := by
  induction t generalizing cased with
  | nil => rfl
  | cons c rest ih =>
      obtain ⟨here, others⟩ := List.forall_mem_cons.mp low
      rw [lowerAfter_cons_of_low cased c rest here, ih _ others]

theorem isCaseIgnorable_space : isCaseIgnorable ' ' = false := by decide

theorem isCased_space : isCased ' ' = false := by decide

theorem casedFollows_append_space (first second : Text) :
    casedFollows (first ++ ' ' :: second) = casedFollows first := by
  induction first with
  | nil => simp [casedFollows, isCaseIgnorable_space, isCased_space]
  | cons c rest ih =>
      unfold casedFollows at ih ⊢
      cases ignorable : isCaseIgnorable c with
      | true => simpa [ignorable] using ih
      | false => simp [ignorable]

theorem lowerAfter_append_space (cased : Bool) (first second : Text) :
    lowerAfter cased (first ++ ' ' :: second) =
      lowerAfter cased first ++ ' ' :: lower second := by
  induction first generalizing cased with
  | nil =>
      rw [List.nil_append, lowerAfter_cons_of_low cased ' ' second isLow_space,
        isCaseIgnorable_space, isCased_space]
      rfl
  | cons c rest ih =>
      simp only [List.cons_append, lowerAfter, casedFollows_append_space, ih, List.append_assoc]

theorem lower_append_space (first second : Text) :
    lower (first ++ ' ' :: second) = lower first ++ ' ' :: lower second :=
  lowerAfter_append_space false first second

end Lowered

theorem isLow_of_mem_normalize (t : Text) : ∀ c ∈ normalize t, IsLow c := by
  rw [normalize_eq]
  intro c member
  rcases mem_joinWith ' ' _ c member with rfl | ⟨run, found, inside⟩
  · exact isLow_space
  · exact isLow_of_plain c ((mem_runs isPlain _ run found).2 c inside)

theorem normalize_normalize (t : Text) : normalize (normalize t) = normalize t := by
  have kept : lower (normalize t) = normalize t :=
    lowerAfter_of_low false _ (isLow_of_mem_normalize t)
  calc
    normalize (normalize t) = joinWith [' '] (runs isPlain (normalize t)) := by
      rw [normalize_eq, kept]
    _ = joinWith [' '] (runs isPlain (lower t)) := by
      rw [normalize_eq t, runs_joinWith isPlain ' ' rfl _ (mem_runs isPlain (lower t))]
    _ = normalize t := (normalize_eq t).symm

theorem normalize_append_space (first second : Text) :
    normalize (first ++ ' ' :: second) =
      joinWith [' '] ([normalize first, normalize second].filter (· ≠ [])) := by
  have nonempty : ∀ t, ∀ run ∈ runs isPlain (lower t), run ≠ [] := by
    intro t run member
    exact (mem_runs isPlain (lower t) run member).1
  calc
    normalize (first ++ ' ' :: second) =
        joinWith [' '] (runs isPlain (lower first) ++ runs isPlain (lower second)) := by
      rw [normalize_eq, lower_append_space, runs_append_cons isPlain _ _ ' ' rfl]
    _ = _ := by
      rw [joinWith_append_texts ' ' _ _ (nonempty first) (nonempty second), ← normalize_eq,
        ← normalize_eq]

/-- The normal form of a text is the maximal runs of `a`-`z` and `0`-`9` in its lower case form,
joined by single spaces. It is its own normal form; and two texts with a space between them have
their normal forms joined by a space, or the one that is not empty. -/
theorem normalize_as_plain_runs :
    (∀ t : Text, normalize t = joinWith " " (runs isPlain (lower t))) ∧
      (∀ t : Text, normalize (normalize t) = normalize t) ∧
      ∀ first second : Text, normalize (first ++ ' ' :: second) =
        joinWith " " ([normalize first, normalize second].filter (· ≠ [])) :=
  ⟨normalize_eq, normalize_normalize, normalize_append_space⟩

example : normalize "Σ\u0130x \u212A\u00A0-a_b ΑΣ".toList = "i x k a b".toList := by decide +kernel

end Restatement.Text
