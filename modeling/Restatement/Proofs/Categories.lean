import Mathlib.Data.List.Basic
import Restatement.Proofs.Attribution

/-!
Which comments a policy reaches. Documentation and inline comments are told apart by their wording,
and a block comment can be neither. What a policy says of both categories holds of all comments but
these.
-/

namespace Restatement

/-- A block comment without the wording of documentation or of a remark between lines of code. -/
def Comment.isPlainBlock (comment : Comment) : Bool :=
  comment.kind == .block && !comment.classify.isDocumentation && !comment.classify.isAction &&
    !comment.classify.isDirective && !Wording.isRemark comment.text

theorem Comment.isInline_eq (comment : Comment) :
    comment.classify.isInline =
      (!comment.classify.isDocumentation && !comment.isPlainBlock) := by
  have text : comment.classify.text = comment.text := rfl
  have line : comment.classify.isLine = !(comment.kind == .block) := rfl
  simp only [Classification.isInline, isPlainBlock, text, line, Bool.not_and, Bool.not_not]
  cases comment.classify.isDocumentation <;> simp [Bool.or_assoc]

/-- The two categories leave out the plain blocks and nothing else. -/
theorem Comment.isPlainBlock_iff (comment : Comment) :
    comment.isPlainBlock = true ↔
      comment.classify.isDocumentation = false ∧ comment.classify.isInline = false := by
  rw [isInline_eq]
  cases documented : comment.classify.isDocumentation with
  | true => simp [isPlainBlock, documented]
  | false => simp

def Settings.treating (settings : Settings) (handling : Handling) : Settings :=
  { settings with policy := ⟨handling, handling⟩ }

theorem treated_treating (settings : Settings) (handling asked : Handling) (comment : Comment) :
    comment.classify.treated (settings.treating handling).policy asked =
      (handling == asked && !comment.isPlainBlock) := by
  simp only [Classification.treated, Settings.treating, Comment.isInline_eq]
  cases handling == asked with
  | false => simp
  | true =>
      cases documented : comment.classify.isDocumentation with
      | true => simp [Comment.isPlainBlock, documented]
      | false => simp

namespace Reference

theorem isSpared_treating (settings : Settings) (handling : Handling)
    (patterns : List CompiledPattern) (comment : Comment) :
    isSpared (settings.treating handling) patterns comment =
      (isSpared (settings.treating .normal) patterns comment ||
        (handling == .skip && !comment.isPlainBlock)) := by
  have other : (Handling.normal == Handling.skip) = false := rfl
  simp only [isSpared, Classification.isSkipped, treated_treating, other]
  simp only [Settings.treating]
  cases handling == .skip && !comment.isPlainBlock <;> simp

theorem finding_treating (settings : Settings) (handling : Handling) (thresholds : Thresholds)
    (comment : Comment) (construct : Construct) :
    finding (settings.treating handling) thresholds comment construct =
      { finding (settings.treating .normal) thresholds comment construct with
        severity := if handling == .strict && !comment.isPlainBlock then .error else .warning } := by
  have handled : (comment.classify.handling (settings.treating handling).policy = .strict) =
      ((handling == .strict && !comment.isPlainBlock) = true) := by
    rw [Classification.handling, treated_treating]
    cases handling == .strict && !comment.isPlainBlock <;> simp
  simp only [finding, handled]

theorem attributed_skipping [CharacterNames] (settings : Settings) (thresholds : Thresholds)
    (file : ParsedFile) :
    attributed (settings.treating .skip) thresholds file =
      (attributed (settings.treating .normal) thresholds file).map
        (·.filter fun pair => pair.1.isPlainBlock) := by
  have hidden : ∀ patterns comment, verdict? (settings.treating .skip) thresholds patterns
      file.outline comment = if !comment.isPlainBlock then none
        else verdict? (settings.treating .normal) thresholds patterns file.outline comment := by
    intro patterns comment
    apply verdict_hiding (settings.treating .normal) (settings.treating .skip) thresholds patterns
      patterns file.outline comment _ rfl
    · exact isSpared_treating settings .skip patterns comment
    · intro construct
      calc finding (settings.treating .skip) thresholds comment construct
        _ = { finding (settings.treating .normal) thresholds comment construct with
              severity := .warning } := finding_treating settings .skip thresholds comment construct
        _ = finding (settings.treating .normal) thresholds comment construct :=
          (finding_treating settings .normal thresholds comment construct).symm
  simp only [attributed, mapped_twice]
  congr 1
  funext patterns
  simpa only [Bool.not_not] using paired_hiding _ _ file.comments _ (hidden patterns)

theorem attributed_strict [CharacterNames] (settings : Settings) (thresholds : Thresholds)
    (file : ParsedFile) :
    attributed (settings.treating .strict) thresholds file =
      (attributed (settings.treating .normal) thresholds file).map (·.map fun pair => (pair.1,
        { pair.2 with severity := if pair.1.isPlainBlock then .warning else .error })) := by
  have marked : ∀ patterns comment, verdict? (settings.treating .strict) thresholds patterns
      file.outline comment =
        (verdict? (settings.treating .normal) thresholds patterns file.outline comment).map
          fun finding =>
            { finding with severity := if comment.isPlainBlock then .warning else .error } := by
    intro patterns comment
    apply verdict_marking (settings.treating .normal) (settings.treating .strict) thresholds
      patterns file.outline comment _ rfl
    · have other : (Handling.strict == Handling.skip) = false := rfl
      rw [isSpared_treating, other, Bool.false_and, Bool.or_false]
    · intro construct
      rw [finding_treating]
      cases comment.isPlainBlock <;> rfl
  simp only [attributed, mapped_twice]
  congr 1
  funext patterns
  exact paired_marking _ _ file.comments _ (marked patterns)

end Reference

/-- Runs over one file that differ in how they treat both categories of comments, each over caches
with a past of its own. Skipping both leaves of the usual findings those of plain blocks; being
strict about both makes errors of all but those. -/
theorem policy_reaches_categories [CharacterNames] (past : Settings → Past) (settings : Settings)
    (thresholds : Thresholds) (file : ParsedFile) :
    let run := fun handling => (past (settings.treating handling)).caches.findings
      (settings.treating handling) thresholds file
    let found := Reference.attributed (settings.treating .normal) thresholds file
    (∀ comment : Comment, comment.isPlainBlock = true ↔
      comment.classify.isDocumentation = false ∧ comment.classify.isInline = false) ∧
    run .normal = found.map (·.map (·.2)) ∧
    run .skip = found.map (fun pairs =>
      (pairs.filter fun pair => pair.1.isPlainBlock).map (·.2)) ∧
    run .strict = found.map (·.map fun pair =>
      { pair.2 with severity := if pair.1.isPlainBlock then .warning else .error }) := by
  intro run found
  have attribution : ∀ handling, run handling =
      (Reference.attributed (settings.treating handling) thresholds file).map (·.map (·.2)) :=
    fun handling => (past _).findings_attributed (settings.treating handling) thresholds file
  refine ⟨Comment.isPlainBlock_iff, attribution .normal, ?_, ?_⟩
  · rw [attribution, Reference.attributed_skipping, mapped_twice]
  · rw [attribution, Reference.attributed_strict, mapped_twice]
    simp only [List.map_map, Function.comp_def]
    rfl

/-- A plain block above the statement that it restates is found although both categories are
skipped, and as a warning although both are strict. -/
theorem policy_misses_plain_block :
    let _ : CharacterNames := .none
    let comment : Comment := ⟨⟨1, 0, 1, 12, 0, 12⟩, .block, " return ", false⟩
    let file := ParsedFile.returning [comment]
    let caches := Caches.empty ⟨200, by decide⟩ ⟨300, by decide⟩
    let found : Finding := ⟨.warning, comment.span, "return", .return⟩
    caches.findings (Settings.treating {} .skip) {} file = .ok [found] ∧
      caches.findings (Settings.treating {} .strict) {} file = .ok [found] := by
  decide +kernel

end Restatement
