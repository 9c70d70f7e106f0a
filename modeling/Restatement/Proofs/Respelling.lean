import Mathlib.Data.List.Forall2
import Restatement.Proofs.NormalForms
import Restatement.Scoring

/-!
What the verdict on a comment does not see. The normal form of a text depends on each code point by
itself: a code point that has no letter or digit in its lower case form is a gap between words,
whatever stands around it. So a text can be spelled in other letter case and with other gaps and
keeps its normal form; and the verdict looks at nothing but the normal forms of comment and glosses.
-/

namespace Restatement

namespace Text

section Runs

variable (p : Char → Bool)

theorem runs_append_failing (first gap second : Text) (some : gap ≠ [])
    (fails : ∀ c ∈ gap, p c = false) :
    runs p (first ++ gap ++ second) = runs p first ++ runs p second := by
  have skipped : ∀ others : Text, (∀ c ∈ others, p c = false) →
      runs p (others ++ second) = runs p second := by
    intro others
    induction others with
    | nil =>
        intro _
        rfl
    | cons c rest ih =>
        intro each
        obtain ⟨here, later⟩ := List.forall_mem_cons.mp each
        rw [List.cons_append, runs_cons_fails p c _ here, ih later]
  obtain ⟨c, rest, rfl⟩ := List.exists_cons_of_ne_nil some
  obtain ⟨here, later⟩ := List.forall_mem_cons.mp fails
  calc
    runs p (first ++ c :: rest ++ second) = runs p (first ++ c :: (rest ++ second)) := by simp
    _ = runs p first ++ runs p (rest ++ second) := runs_append_cons p first _ c here
    _ = runs p first ++ runs p second := by rw [skipped rest later]

end Runs

def plainWords (t : Text) : List Text := runs isPlain (lower t)

@[simp]
theorem plainWords_nil : plainWords [] = [] := rfl

theorem normalize_eq_iff (first second : Text) :
    normalize first = normalize second ↔ plainWords first = plainWords second := by
  have found : ∀ t, runs isPlain (normalize t) = plainWords t := by
    intro t
    rw [normalize_eq, runs_joinWith isPlain ' ' rfl _ (mem_runs isPlain (lower t))]
    rfl
  constructor
  · intro same
    rw [← found first, ← found second, same]
  · intro same
    rw [normalize_eq, normalize_eq]
    exact congrArg (joinWith [' ']) same

/-- A text in lower case with everything but letters, digits and blanks masked. -/
def masked (t : Text) : Text := (lower t).map mask

/-- Where a sigma stands decides how it is written, but neither form is a letter of normal forms. -/
theorem map_mask_lowerAfter (cased : Bool) (t : Text) :
    (lowerAfter cased t).map mask = t.flatMap fun c => masked [c] := by
  induction t generalizing cased with
  | nil => rfl
  | cons c rest ih =>
      rw [List.flatMap_cons, ← ih (if isCaseIgnorable c then cased else isCased c), lowerAfter,
        List.map_append]
      congr 1
      by_cases sigma : c = capitalSigma
      · have final : mask finalSigma = ' ' := by decide
        have small : mask smallSigma = ' ' := by decide
        cases cased && !casedFollows rest <;>
          simp [masked, lower, lowerAfter, sigma, final, small]
      · simp [masked, lower, lowerAfter, sigma]

theorem masked_eq (t : Text) : masked t = t.flatMap fun c => masked [c] :=
  map_mask_lowerAfter false t

theorem masked_append (first second : Text) :
    masked (first ++ second) = masked first ++ masked second := by
  rw [masked_eq (first ++ second), List.flatMap_append, ← masked_eq first, ← masked_eq second]

theorem masked_ne_nil (t : Text) (some : t ≠ []) : masked t ≠ [] := by
  obtain ⟨c, rest, rfl⟩ := List.exists_cons_of_ne_nil some
  have lowered : lower (c :: rest) ≠ [] := by
    rw [lower, lowerAfter]
    split
    · simp
    · split <;> simp
  simpa [masked] using lowered

theorem plainWords_eq (t : Text) : plainWords t = words (masked t) :=
  (words_map_mask (lower t)).symm

def isGap (c : Char) : Bool := (lower [c]).all fun d => !isPlain d

theorem masked_gaps (t : Text) (gaps : ∀ c ∈ t, isGap c = true) :
    ∀ d ∈ masked t, isBlank d = true := by
  intro d member
  rw [masked_eq] at member
  obtain ⟨c, present, inside⟩ := List.mem_flatMap.mp member
  obtain ⟨e, lowered, rfl⟩ := List.mem_map.mp inside
  rw [isBlank_mask]
  exact List.all_eq_true.mp (gaps c present) e lowered

theorem plainWords_parted (first gap second : Text) (some : gap ≠ [])
    (gaps : ∀ c ∈ gap, isGap c = true) :
    plainWords (first ++ gap ++ second) = plainWords first ++ plainWords second := by
  simp only [plainWords_eq, masked_append, words]
  apply runs_append_failing _ _ _ _ (masked_ne_nil gap some)
  simpa using masked_gaps gap gaps

section Shifted

theorem shiftBy_cases (shifts : List Shift) (n : Nat) :
    shiftBy shifts n = n ∨
      ∃ shift ∈ shifts, shift.low ≤ n ∧ n ≤ shift.high ∧
        shiftBy shifts n = (n + shift.offset).toNat := by
  induction shifts with
  | nil => exact .inl rfl
  | cons shift rest ih =>
      rw [shiftBy]
      by_cases before : n < shift.low
      · rw [if_pos before]
        exact .inl rfl
      · rw [if_neg before]
        cases covered : shift.covers n with
        | true =>
            have place : (shift.low ≤ n ∧ n ≤ shift.high) ∧ (n - shift.low) % shift.stride = 0 := by
              simpa [Shift.covers] using covered
            exact .inr ⟨shift, List.mem_cons_self, place.1.1, place.1.2, rfl⟩
        | false =>
            rcases ih with kept | ⟨other, member, moved⟩
            · exact .inl kept
            · exact .inr ⟨other, List.mem_cons_of_mem shift member, moved⟩

/-- No code point moves down past the first letter; and only the capitals of ASCII, the dotted I and
the sign for kelvin move down to letters and digits of normal forms. -/
theorem lowerShifts_land : ∀ shift ∈ lowerShifts, 97 ≤ shift.low + shift.offset ∧
    ((shift.low = 65 ∧ shift.high = 90) ∨ (shift.low = 0x130 ∧ shift.high = 0x130) ∨
      (shift.low = 0x212A ∧ shift.high = 0x212A) ∨ 122 < shift.low + shift.offset) := by
  decide +kernel

theorem char_toNat_ofNat (n : Nat) : (Char.ofNat n).toNat = n ∨ (Char.ofNat n).toNat = 0 := by
  by_cases valid : n.isValidChar
  · left
    rw [Char.ofNat, dif_pos valid]
    rfl
  · right
    rw [Char.ofNat, dif_neg valid]
    rfl

end Shifted

def kelvinSign : Char := Char.ofNat 0x212A

/-- The letters and digits of ASCII, and the two other letters with one of them in their lower case
form. -/
def IsAlphanumeric (c : Char) : Prop :=
  isPlain c = true ∨ ('A' ≤ c ∧ c ≤ 'Z') ∨ c = capitalDottedI ∨ c = kelvinSign

instance : DecidablePred IsAlphanumeric := fun c => inferInstanceAs
  (Decidable (isPlain c = true ∨ ('A' ≤ c ∧ c ≤ 'Z') ∨ c = capitalDottedI ∨ c = kelvinSign))

theorem others_of_all (t : Text) (each : (t.all fun c => !decide (IsAlphanumeric c)) = true) :
    ∀ c ∈ t, ¬ IsAlphanumeric c := by
  simpa using each

theorem lowerChar_not_plain (c : Char) (other : ¬ IsAlphanumeric c) :
    isPlain (lowerChar c) = false := by
  simp only [IsAlphanumeric, not_or] at other
  obtain ⟨plain, capital, dotted, kelvin⟩ := other
  rcases shiftBy_cases lowerShifts c.toNat with kept | ⟨shift, member, low, high, moved⟩
  · rw [lowerChar, kept, Char.ofNat_toNat]
    simpa using plain
  · have place : ∀ n, c.toNat = n → c = Char.ofNat n := by
      intro n same
      rw [← same, Char.ofNat_toNat]
    rcases (lowerShifts_land shift member).2 with ascii | only | only | above
    · have above : 65 ≤ c.toNat := by omega
      have below : c.toNat ≤ 90 := by omega
      exact absurd ⟨above, below⟩ capital
    · exact absurd (place 0x130 (by omega)) dotted
    · exact absurd (place 0x212A (by omega)) kelvin
    · -- past the letters of ASCII, or no code point at all
      rw [Bool.eq_false_iff]
      intro lands
      have range := toNat_of_plain _ lands
      rw [lowerChar] at range
      rcases char_toNat_ofNat (shiftBy lowerShifts c.toNat) with same | zero <;> omega

theorem isGap_of_other (c : Char) (other : ¬ IsAlphanumeric c) : isGap c = true := by
  have dotted : c ≠ capitalDottedI := fun same => other (.inr (.inr (.inl same)))
  by_cases sigma : c = capitalSigma
  · rw [sigma]
    decide +kernel
  · simp [isGap, lower, lowerAfter, sigma, dotted, lowerChar_not_plain c other]

/-- Texts that differ in letter case, or in what stands between their words and around them. -/
inductive Respelled : Text → Text → Prop
  | recased (before first second after : Text) (same : lower first = lower second) :
      Respelled (before ++ first ++ after) (before ++ second ++ after)
  | parted (before gap other after : Text) (some : gap ≠ []) (others : other ≠ [])
      (gaps : ∀ c ∈ gap ++ other, ¬ IsAlphanumeric c) :
      Respelled (before ++ gap ++ after) (before ++ other ++ after)
  | led (gap t : Text) (gaps : ∀ c ∈ gap, ¬ IsAlphanumeric c) : Respelled (gap ++ t) t
  | followed (t gap : Text) (gaps : ∀ c ∈ gap, ¬ IsAlphanumeric c) : Respelled (t ++ gap) t
  | symm {first second : Text} : Respelled first second → Respelled second first
  | trans {first second third : Text} :
      Respelled first second → Respelled second third → Respelled first third

theorem Respelled.plainWords_eq {first second : Text} (respelled : Respelled first second) :
    plainWords first = plainWords second := by
  have parts : ∀ before gap after, gap ≠ [] → (∀ c ∈ gap, ¬ IsAlphanumeric c) →
      plainWords (before ++ gap ++ after) = plainWords before ++ plainWords after := by
    intro before gap after some gaps
    exact plainWords_parted before gap after some fun c member => isGap_of_other c (gaps c member)
  induction respelled with
  | recased before first second after same =>
      have alike : masked first = masked second := congrArg (List.map mask) same
      simp only [Text.plainWords_eq, masked_append, alike]
  | parted before gap other after some others gaps =>
      obtain ⟨left, right⟩ := List.forall_mem_append.mp gaps
      rw [parts before gap after some left, parts before other after others right]
  | led gap t gaps =>
      by_cases empty : gap = []
      · rw [empty, List.nil_append]
      · simpa using parts [] gap t empty gaps
  | followed t gap gaps =>
      by_cases empty : gap = []
      · rw [empty, List.append_nil]
      · simpa using parts t gap [] empty gaps
  | symm _ ih => exact ih.symm
  | trans _ _ left right => exact left.trans right

def SameForm (first second : Text) : Prop := normalize first = normalize second

theorem Respelled.sameForm {first second : Text} (respelled : Respelled first second) :
    SameForm first second :=
  (normalize_eq_iff first second).mpr respelled.plainWords_eq

end Text

abbrev SameForms (first second : List Text) : Prop := List.Forall₂ Text.SameForm first second

theorem SameForms.normalize_eq {first second : List Text} (same : SameForms first second) :
    first.map Text.normalize = second.map Text.normalize := by
  induction same with
  | nil => rfl
  | cons head _ ih => rw [List.map_cons, List.map_cons, head, ih]

namespace Scoring

def forms (glosses : List Text) : List Text := (glosses.map Text.normalize).filter (· ≠ [])

theorem mem_forms (glosses : List Text) (form : Text) :
    form ∈ forms glosses ↔ form ≠ [] ∧ form ∈ glosses.map Text.normalize := by
  simp only [forms, List.mem_filter, decide_eq_true_eq]
  exact And.comm

end Scoring

/-- The verdict as it comes from the normal forms. -/
theorem isObvious_eq (thresholds : Thresholds) (sensitivity : Sensitivity) (comment : Text)
    (glosses : List Text) :
    isObvious thresholds sensitivity comment glosses =
      (decide ((Text.words (Text.normalize comment)).length ≤ thresholds.maxCommentWords) &&
        (Scoring.forms glosses).any
          (Scoring.restates thresholds sensitivity (Text.normalize comment))) := by
  simp only [isObvious, Scoring.forms, List.any_filter]
  congr 2
  funext gloss
  cases gloss <;> rfl

theorem isObvious_congr (thresholds : Thresholds) (sensitivity : Sensitivity)
    (comment other : Text) (glosses others : List Text)
    (same : Text.normalize comment = Text.normalize other)
    (forms : ∀ form, form ∈ Scoring.forms glosses ↔ form ∈ Scoring.forms others) :
    isObvious thresholds sensitivity comment glosses =
      isObvious thresholds sensitivity other others := by
  rw [isObvious_eq, isObvious_eq, same]
  congr 1
  rw [Bool.eq_iff_iff, List.any_eq_true, List.any_eq_true]
  simp only [forms]

theorem isObvious_of_sameForms (thresholds : Thresholds) (sensitivity : Sensitivity)
    (comment other : Text) (glosses others : List Text) (same : Text.SameForm comment other)
    (each : SameForms glosses others) :
    isObvious thresholds sensitivity comment glosses =
      isObvious thresholds sensitivity other others := by
  apply isObvious_congr thresholds sensitivity comment other glosses others same
  intro form
  rw [Scoring.forms, each.normalize_eq, Scoring.forms]

theorem isObvious_append (thresholds : Thresholds) (sensitivity : Sensitivity) (comment : Text)
    (glosses others : List Text) :
    isObvious thresholds sensitivity comment (glosses ++ others) =
      (isObvious thresholds sensitivity comment glosses ||
        isObvious thresholds sensitivity comment others) := by
  have joined : Scoring.forms (glosses ++ others) =
      Scoring.forms glosses ++ Scoring.forms others := by
    simp only [Scoring.forms, List.map_append, List.filter_append]
  simp only [isObvious_eq, joined, List.any_append, Bool.and_or_distrib_left]

theorem isObviousAt_name (thresholds : Thresholds) (sensitivity : Sensitivity) (comment : Text)
    (glosses : List Text) :
    isObviousAt? thresholds sensitivity.name comment glosses =
      some (isObvious thresholds sensitivity comment glosses) := by
  have valid : Sensitivity.ofName? sensitivity.name = some sensitivity := by
    cases sensitivity <;> rfl
  rw [isObviousAt?, valid]
  cases glosses with
  | nil => simp [isObvious]
  | cons gloss rest => rfl

/-- There is a verdict at every sensitivity, and it depends on the normal forms alone: on that of
the comment, and on which ones other than the empty one the glosses have. So the order of the
glosses does not matter, nor whether one is there twice, nor one whose normal form is empty, nor how
comment and glosses are spelled; and the verdict by two lists of glosses together is the verdict by
one or the other. -/
theorem verdict_by_normal_forms (thresholds : Thresholds) (sensitivity : Sensitivity) :
    let verdict := isObviousAt? thresholds sensitivity.name
    (∀ comment other glosses others, Text.normalize comment = Text.normalize other →
      (∀ form, form ≠ [] →
        (form ∈ glosses.map Text.normalize ↔ form ∈ others.map Text.normalize)) →
      verdict comment glosses = verdict other others) ∧
    (∀ comment glosses others, (∀ gloss, gloss ∈ glosses ↔ gloss ∈ others) →
      verdict comment glosses = verdict comment others) ∧
    (∀ comment before gloss after, Text.normalize gloss = [] →
      verdict comment (before ++ gloss :: after) = verdict comment (before ++ after)) ∧
    (∀ comment other glosses others, Text.Respelled comment other →
      List.Forall₂ Text.Respelled glosses others →
      verdict comment glosses = verdict other others) ∧
    ∀ comment glosses others, ∃ first second,
      verdict comment glosses = some first ∧ verdict comment others = some second ∧
        verdict comment (glosses ++ others) = some (first || second) := by
  intro verdict
  simp only [verdict, isObviousAt_name, Option.some.injEq]
  refine ⟨?_, ?_, ?_, ?_, ?_⟩
  · intro comment other glosses others same forms
    apply isObvious_congr thresholds sensitivity _ _ _ _ same
    intro form
    rw [Scoring.mem_forms, Scoring.mem_forms]
    exact and_congr_right (forms form)
  · intro comment glosses others members
    apply isObvious_congr thresholds sensitivity _ _ _ _ rfl
    intro form
    simp only [Scoring.mem_forms, List.mem_map, members]
  · intro comment before gloss after empty
    apply isObvious_congr thresholds sensitivity _ _ _ _ rfl
    intro form
    simp [Scoring.forms, empty]
  · intro comment other glosses others respelled each
    have forms : SameForms glosses others := each.imp fun _ _ gloss => gloss.sameForm
    exact isObvious_of_sameForms thresholds sensitivity _ _ _ _ respelled.sameForm forms
  · intro comment glosses others
    exact ⟨_, _, rfl, rfl, isObvious_append thresholds sensitivity comment glosses others⟩

theorem verdict_by_normal_forms_update :
    let verdict := isObviousAt? {} Sensitivity.low.name
    let glosses : List Text := ["i++", "++", "INCREMENT (i)", "increment i"]
    let others : List Text := ["Increment-I", "I"]
    (∀ form, form ≠ [] →
      (form ∈ glosses.map Text.normalize ↔ form ∈ others.map Text.normalize)) ∧
      Text.Respelled "i++" "I" ∧ verdict "Increment_i!" glosses = some true ∧
      verdict "Increment_i!" glosses = verdict "increment  I" others ∧
      verdict "i++" ["i++"] = verdict "I" ["I"] := by
  intro verdict glosses others
  have forms : ∀ form, form ≠ [] →
      (form ∈ glosses.map Text.normalize ↔ form ∈ others.map Text.normalize) := by
    have left : glosses.map Text.normalize = ["i", "", "increment i", "increment i"] := by
      decide +kernel
    have right : others.map Text.normalize = ["increment i", "i"] := by decide +kernel
    intro form some
    rw [left, right]
    simp [some, or_comm]
  have respelled : Text.Respelled "i++" "I" :=
    .trans (.recased [] "i" "I" "++" (by decide)) (.followed "I" "++" (Text.others_of_all _ rfl))
  obtain ⟨byForms, -, -, bySpelling, -⟩ := verdict_by_normal_forms {} .low
  exact ⟨forms, respelled, by decide +kernel,
    byForms "Increment_i!" "increment  I" glosses others (by decide +kernel) forms,
    bySpelling "i++" "I" ["i++"] ["I"] respelled (.cons respelled .nil)⟩

end Restatement
