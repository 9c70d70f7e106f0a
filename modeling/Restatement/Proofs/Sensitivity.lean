import Restatement.Proofs.Verdict

/-!
From low to high sensitivity more is found, and what is found at one sensitivity is found in the
same words at the next.
-/

namespace Restatement

def Sensitivity.rank : Sensitivity → Nat
  | .low => 0
  | .medium => 1
  | .high => 2

theorem wider_than_high (narrow wide : Sensitivity) (order : narrow.rank ≤ wide.rank)
    (high : narrow = .high) : wide = .high := by
  subst high
  cases wide with
  | low => exact absurd order (by decide)
  | medium => exact absurd order (by decide)
  | high => rfl

theorem wider_than_low (narrow wide : Sensitivity) (order : narrow.rank ≤ wide.rank)
    (above : narrow ≠ .low) : wide ≠ .low := by
  intro low
  subst low
  cases narrow with
  | low => exact above rfl
  | medium => exact absurd order (by decide)
  | high => exact absurd order (by decide)

namespace Scoring

/-- Each of the ways to restate a gloss stays open at a wider sensitivity, whatever the
thresholds. -/
theorem restates_widen (thresholds : Thresholds) (narrow wide : Sensitivity)
    (order : narrow.rank ≤ wide.rank) (comment gloss : Text)
    (restated : restates thresholds narrow comment gloss = true) :
    restates thresholds wide comment gloss = true := by
  simp only [restates, Bool.or_eq_true, Bool.and_eq_true, beq_iff_eq, bne_iff_ne] at restated ⊢
  rcases restated with (((same | starts) | ⟨high, contained⟩) | ⟨above, overlaps⟩) | ⟨high, loose⟩
  · exact .inl (.inl (.inl (.inl same)))
  · exact .inl (.inl (.inl (.inr starts)))
  · exact .inl (.inl (.inr ⟨wider_than_high narrow wide order high, contained⟩))
  · exact .inl (.inr ⟨wider_than_low narrow wide order above, overlaps⟩)
  · exact .inr ⟨wider_than_high narrow wide order high, loose⟩

end Scoring

theorem isObvious_widen (thresholds : Thresholds) (narrow wide : Sensitivity)
    (order : narrow.rank ≤ wide.rank) (comment : Text) (glosses : List Text)
    (obvious : isObvious thresholds narrow comment glosses = true) :
    isObvious thresholds wide comment glosses = true := by
  simp only [isObvious, Bool.and_eq_true, List.any_eq_true] at obvious ⊢
  obtain ⟨short, gloss, member, wordy, restated⟩ := obvious
  exact ⟨short, gloss, member, wordy,
    Scoring.restates_widen thresholds narrow wide order _ gloss restated⟩

theorem filterMap_sublist_of_extends {α β : Type} (narrow wide : α → Option β)
    (larger : ∀ a b, narrow a = some b → wide a = some b) (items : List α) :
    (items.filterMap narrow).Sublist (items.filterMap wide) := by
  induction items with
  | nil => exact .slnil
  | cons item rest ih =>
      cases kept : narrow item with
      | some value =>
          rw [List.filterMap_cons_some kept, List.filterMap_cons_some (larger item value kept)]
          exact ih.cons_cons value
      | none =>
          rw [List.filterMap_cons_none kept]
          cases added : wide item with
          | none => rwa [List.filterMap_cons_none added]
          | some value =>
              rw [List.filterMap_cons_some added]
              exact ih.cons value

def Settings.at (settings : Settings) (sensitivity : Sensitivity) : Settings :=
  { settings with sensitivity := sensitivity }

namespace Reference

/-- A finding at one sensitivity is the same finding at a wider one. -/
theorem verdict_widen (settings : Settings) (thresholds : Thresholds)
    (patterns : List CompiledPattern) (outline : Outline) (narrow wide : Sensitivity)
    (order : narrow.rank ≤ wide.rank) (comment : Comment) (finding : Finding)
    (found : verdict? (settings.at narrow) thresholds patterns outline comment = some finding) :
    verdict? (settings.at wide) thresholds patterns outline comment = some finding := by
  rw [verdict_eq_some_iff] at found ⊢
  obtain ⟨spared, construct, next, obvious, same⟩ := found
  exact ⟨spared, construct, next, isObvious_widen thresholds narrow wide order _ _ obvious, same⟩

theorem verdicts_widen (settings : Settings) (thresholds : Thresholds)
    (patterns : List CompiledPattern) (outline : Outline) (narrow wide : Sensitivity)
    (order : narrow.rank ≤ wide.rank) (comments : List Comment) :
    (comments.filterMap (verdict? (settings.at narrow) thresholds patterns outline)).Sublist
      (comments.filterMap (verdict? (settings.at wide) thresholds patterns outline)) :=
  filterMap_sublist_of_extends _ _
    (verdict_widen settings thresholds patterns outline narrow wide order) comments

end Reference

/-- Three runs that differ in the sensitivity alone, each over caches with a history of its own:
either the ignore patterns break a limit of the pattern engine in all of them, or the findings at
low are among those at medium and these among those at high, in order. -/
theorem findings_widen [CharacterNames] (patternCapacity remarkCapacity : Capacity)
    (history : Sensitivity → List Request) (settings : Settings) (thresholds : Thresholds)
    (file : ParsedFile) :
    let run := fun sensitivity =>
      ((Caches.empty patternCapacity remarkCapacity).serveAll (history sensitivity)).findings
        (settings.at sensitivity) thresholds file
    (∃ limit, settings.ignorePatterns.mapM (CompiledPattern.compile · 0) = .error limit ∧
        ∀ sensitivity, run sensitivity = .error limit) ∨
      ∃ found : Sensitivity → List Finding,
        (∀ sensitivity, run sensitivity = .ok (found sensitivity)) ∧
        (found .low).Sublist (found .medium) ∧ (found .medium).Sublist (found .high) := by
  intro run
  have reference : ∀ sensitivity, run sensitivity =
      Reference.findings (settings.at sensitivity) thresholds file := by
    intro sensitivity
    apply Caches.findings_eq
    exact Caches.serveAll_faithful _ (Caches.empty_faithful patternCapacity remarkCapacity) _
  -- the patterns are compiled alike at every sensitivity
  have ignored : ∀ sensitivity, (settings.at sensitivity).ignorePatterns =
      settings.ignorePatterns := fun _ => rfl
  simp only [Reference.findings, ignored] at reference
  cases outcome : settings.ignorePatterns.mapM (CompiledPattern.compile · 0) with
  | error limit =>
      left
      refine ⟨limit, rfl, ?_⟩
      intro sensitivity
      rw [reference, outcome]
      rfl
  | ok patterns =>
      right
      refine ⟨fun sensitivity => file.comments.filterMap
        (Reference.verdict? (settings.at sensitivity) thresholds patterns file.outline), ?_, ?_, ?_⟩
      · intro sensitivity
        rw [reference, outcome]
        rfl
      · exact Reference.verdicts_widen settings thresholds patterns file.outline .low .medium
          (by decide) file.comments
      · exact Reference.verdicts_widen settings thresholds patterns file.outline .medium .high
          (by decide) file.comments

end Restatement
