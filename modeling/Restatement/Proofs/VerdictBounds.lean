import Restatement.Proofs.Attribution
import Restatement.Proofs.Respelling
import Restatement.Proofs.Sensitivity

/-!
Between what bounds the verdict on a comment moves. A comment in the words of a gloss is found at
every sensitivity and a comment with too many words at none; and a comment without letters or digits
restates no gloss, as nothing of a gloss can be found in it.
-/

namespace Restatement

theorem Binary64.quotient_zero (denominator : Nat) : (quotient 0 denominator).units = 0 := by
  rw [quotient, ofUnits, Int.zero_mul]
  exact Int.zero_mul _

namespace Scoring

variable (thresholds : Thresholds) (sensitivity : Sensitivity)

theorem overlap_nothing (gloss : Text) (share bound : Binary64) (positive : 0 < bound.units)
    (found : overlap? thresholds [] gloss = some share) : bound.atMost share = false := by
  have none : longWords thresholds [] = [] := rfl
  have unmatched : (longWords thresholds gloss).countP (List.contains []) = 0 := by
    rw [List.countP_eq_zero]
    intro word _
    exact Bool.false_ne_true
  simp only [overlap?, none, unmatched] at found
  split at found
  · cases found
  · rw [Option.some.injEq] at found
    have zero : share.units = 0 := found ▸ Binary64.quotient_zero _
    rw [Binary64.atMost, zero]
    exact decide_eq_false (Int.not_le.mpr positive)

theorem restates_nothing (gloss : Text) (some : gloss ≠ [])
    (positive : 0 < thresholds.overlap.units) (loose : 0 < thresholds.highOverlap.units) :
    restates thresholds sensitivity [] gloss = false := by
  obtain ⟨c, rest, rfl⟩ := List.exists_cons_of_ne_nil some
  have starts : startsWithGloss thresholds [] (c :: rest) = false := rfl
  have contains : containsGloss thresholds [] (c :: rest) = false := rfl
  have overlaps : overlapsGloss thresholds [] (c :: rest) = false := by
    rw [overlapsGloss]
    cases found : overlap? thresholds [] (c :: rest) with
    | none => rfl
    | some share => simp [overlap_nothing thresholds _ share _ positive found]
  have loosely : overlapsGlossLoosely thresholds [] (c :: rest) = false := by
    rw [overlapsGlossLoosely]
    cases found : overlap? thresholds [] (c :: rest) with
    | none => rfl
    | some share => simp [overlap_nothing thresholds _ share _ loose found]
  simp [restates, starts, contains, overlaps, loosely]

theorem restates_self (form : Text) : restates thresholds sensitivity form form = true := by
  simp [restates]

end Scoring

section Verdicts

variable (thresholds : Thresholds) (sensitivity : Sensitivity) (comment : Text)
  (glosses : List Text)

theorem isObvious_of_gloss (gloss : Text) (member : gloss ∈ glosses)
    (some : Text.normalize gloss ≠ []) (same : Text.normalize comment = Text.normalize gloss)
    (short : (Text.words (Text.normalize comment)).length ≤ thresholds.maxCommentWords) :
    isObvious thresholds sensitivity comment glosses = true := by
  have form : Text.normalize comment ∈ Scoring.forms glosses := by
    rw [Scoring.mem_forms, same]
    exact ⟨some, List.mem_map_of_mem member⟩
  rw [isObvious_eq, Bool.and_eq_true, decide_eq_true_eq, List.any_eq_true]
  exact ⟨short, _, form, Scoring.restates_self thresholds sensitivity _⟩

theorem isObvious_of_long
    (long : thresholds.maxCommentWords < (Text.words (Text.normalize comment)).length) :
    isObvious thresholds sensitivity comment glosses = false := by
  have exceeds : ¬ ((Text.words (Text.normalize comment)).length ≤ thresholds.maxCommentWords) :=
    Int.not_le.mpr long
  rw [isObvious_eq, decide_eq_false exceeds, Bool.false_and]

/-- A comment without letters and digits has an empty normal form and, whatever the glosses, is not
obvious at any sensitivity when an overlap of nothing is not enough. -/
theorem obvious_only_with_letters (positive : 0 < thresholds.overlap.units)
    (loose : 0 < thresholds.highOverlap.units) :
    ((∀ c ∈ comment, ¬ Text.IsAlphanumeric c) → Text.normalize comment = []) ∧
      (Text.normalize comment = [] →
        isObviousAt? thresholds sensitivity.name comment glosses = some false) := by
  constructor
  · intro others
    exact (Text.Respelled.followed [] comment others).sameForm
  · intro empty
    rw [isObviousAt_name, isObvious_eq, empty, Option.some.injEq, Bool.and_eq_false_iff]
    right
    rw [List.any_eq_false]
    intro form member
    obtain ⟨some, -⟩ := (Scoring.mem_forms glosses form).mp member
    rw [Scoring.restates_nothing thresholds sensitivity form some positive loose]
    exact Bool.false_ne_true

end Verdicts

theorem obvious_only_with_letters_cyrillic :
    let thresholds : Thresholds :=
      { remainderLimit := 100, minWordLength := -1, overlap := ⟨1⟩, minOverlapWords := 0,
        highOverlap := ⟨1⟩, highCoverage := ⟨0⟩ }
    let comment : Text := "вернуть Σ — значение!"
    let glosses : List Text := ["return Σx", "Σ"]
    (0 < thresholds.overlap.units ∧ 0 < thresholds.highOverlap.units) ∧
      (∀ c ∈ comment, ¬ Text.IsAlphanumeric c) ∧ Text.normalize comment = [] ∧
      isObviousAt? thresholds Sensitivity.high.name comment glosses = some false := by
  intro thresholds comment glosses
  have others : ∀ c ∈ comment, ¬ Text.IsAlphanumeric c :=
    Text.others_of_all comment (by decide +kernel)
  obtain ⟨empty, never⟩ := obvious_only_with_letters thresholds .high comment glosses
    (by decide) (by decide)
  exact ⟨⟨by decide, by decide⟩, others, empty others, never (empty others)⟩

namespace Reference

variable (settings : Settings) (thresholds : Thresholds) (patterns : List CompiledPattern)
  (outline : Outline) (comment : Comment)

theorem verdict_of_gloss (sensitivity : Sensitivity) (construct : Construct) (gloss : Text)
    (examined : isSpared settings patterns comment = false)
    (next : adjacent? comment (.ofOutline outline) = some construct)
    (member : gloss ∈ construct.glosses) (some : Text.normalize gloss ≠ [])
    (same : Text.normalize comment.firstLine = Text.normalize gloss)
    (short : (Text.words (Text.normalize comment.firstLine)).length ≤
      thresholds.maxCommentWords) :
    verdict? (settings.at sensitivity) thresholds patterns outline comment =
      .some (finding settings thresholds comment construct) := by
  rw [verdict_eq_some_iff]
  exact ⟨examined, construct, next, isObvious_of_gloss thresholds sensitivity comment.firstLine
    construct.glosses gloss member some same short, rfl⟩

theorem verdict_of_long
    (long : thresholds.maxCommentWords <
      (Text.words (Text.normalize comment.firstLine)).length) :
    verdict? settings thresholds patterns outline comment = none := by
  rw [Option.eq_none_iff_forall_ne_some]
  intro found verdict
  obtain ⟨-, construct, -, obvious, -⟩ := (verdict_eq_some_iff ..).mp verdict
  rw [isObvious_of_long thresholds _ _ construct.glosses long] at obvious
  cases obvious

end Reference

theorem Past.findings_of_compiled [CharacterNames] (past : Past) (settings : Settings)
    (thresholds : Thresholds) (patterns : List CompiledPattern) (file : ParsedFile)
    (compiled : settings.ignorePatterns.mapM (CompiledPattern.compile · 0) = .ok patterns) :
    past.caches.findings settings thresholds file =
      .ok (file.comments.filterMap
        (Reference.verdict? settings thresholds patterns file.outline)) := by
  rw [Caches.findings_eq _ past.caches_faithful, Reference.findings, compiled]
  rfl

/-- A comment anywhere in a file, with each run over caches with a past of its own. If the comment
is not spared and its first line reads like a gloss of the construct next to it, in no more words
than are allowed, then at every sensitivity it has just one finding, the same one, between those of
the comments before and after it. If its first line has more words, it has none, whatever stands
next to it. -/
theorem restatement_always_found [CharacterNames] (past : Sensitivity → List Comment → Past)
    (settings : Settings) (thresholds : Thresholds) (patterns : List CompiledPattern)
    (compiled : settings.ignorePatterns.mapM (CompiledPattern.compile · 0) = .ok patterns)
    (file : ParsedFile) (before after : List Comment) (comment : Comment) :
    let line := Text.normalize comment.firstLine
    let run := fun sensitivity comments =>
      (past sensitivity comments).caches.findings (settings.at sensitivity) thresholds
        { file with comments := comments }
    ∀ sensitivity, ∃ earlier later,
      run sensitivity before = .ok earlier ∧ run sensitivity after = .ok later ∧
      (∀ construct gloss, Reference.isSpared settings patterns comment = false →
        adjacent? comment (.ofOutline file.outline) = some construct →
        gloss ∈ construct.glosses → Text.normalize gloss ≠ [] → line = Text.normalize gloss →
        (Text.words line).length ≤ thresholds.maxCommentWords →
          run sensitivity (before ++ comment :: after) =
            .ok (earlier ++ Reference.finding settings thresholds comment construct :: later)) ∧
      (thresholds.maxCommentWords < (Text.words line).length →
        run sensitivity (before ++ comment :: after) = .ok (earlier ++ later)) := by
  intro line run sensitivity
  have found : ∀ comments, run sensitivity comments = .ok (comments.filterMap
      (Reference.verdict? (settings.at sensitivity) thresholds patterns file.outline)) := by
    intro comments
    exact (past sensitivity comments).findings_of_compiled (settings.at sensitivity) thresholds
      patterns { file with comments := comments } compiled
  refine ⟨_, _, found before, found after, ?_, ?_⟩
  · intro construct gloss examined next member some same short
    have verdict := Reference.verdict_of_gloss settings thresholds patterns file.outline comment
      sensitivity construct gloss examined next member some same short
    rw [found, List.filterMap_append, List.filterMap_cons_some verdict]
  · intro long
    have verdict := Reference.verdict_of_long (settings.at sensitivity) thresholds patterns
      file.outline comment long
    rw [found, List.filterMap_append, List.filterMap_cons_none verdict]

theorem restatement_always_found_after_long :
    let _ : CharacterNames := .none
    let long : Comment :=
      ⟨⟨1, 0, 1, 9, 0, 9⟩, .block, " return the value in nine words, every one counted ", false⟩
    let short : Comment := ⟨⟨1, 10, 1, 20, 10, 20⟩, .line, " Return: VALUE!", false⟩
    let construct : Construct :=
      { kind := .return, nodeType := "return_statement", span := some ⟨2, 0, 2, 7, 12, 19⟩ }
    let line := Text.normalize short.firstLine
    let run := fun (sensitivity : Sensitivity) comments =>
      (Past.mk ⟨1, by decide⟩ ⟨1, by decide⟩ []).caches.findings (Settings.at {} sensitivity) {}
        (ParsedFile.returning comments)
    Reference.isSpared {} [] short = false ∧
      adjacent? short (.ofOutline (ParsedFile.returning []).outline) = some construct ∧
      ("return value" : Text) ∈ construct.glosses ∧ line = Text.normalize "return value" ∧
      (Text.words line).length = 2 ∧ (Text.words (Text.normalize long.firstLine)).length = 9 ∧
      ∀ sensitivity, run sensitivity [long, short] =
        .ok [⟨.warning, short.span, "Return: VALUE!", .return⟩] := by
  intro _ long short construct line run
  have spared : Reference.isSpared {} [] short = false := by decide +kernel
  have next : adjacent? short (.ofOutline (ParsedFile.returning []).outline) = some construct := by
    decide +kernel
  have gloss : ("return value" : Text) ∈ construct.glosses := by decide +kernel
  have same : line = Text.normalize "return value" := by decide +kernel
  have two : (Text.words line).length = 2 := by decide +kernel
  have nine : (Text.words (Text.normalize long.firstLine)).length = 9 := by decide +kernel
  refine ⟨spared, next, gloss, same, two, nine, ?_⟩
  intro sensitivity
  have found := fun before comment => restatement_always_found
    (fun _ _ => ⟨⟨1, by decide⟩, ⟨1, by decide⟩, []⟩) {} {} [] rfl (ParsedFile.returning []) before
    [] comment sensitivity
  obtain ⟨none, nothing, start, finish, -, unreported⟩ := found [] long
  obtain ⟨earlier, later, before, after, reported, -⟩ := found [long] short
  have silent := unreported (by rw [nine]; decide)
  have whole := reported construct "return value" spared next gloss (by decide +kernel) same
    (by rw [two]; decide)
  have empty : run sensitivity [] = .ok [] := rfl
  cases start.symm.trans empty
  cases finish.symm.trans empty
  cases after.symm.trans empty
  cases before.symm.trans silent
  exact whole

end Restatement
