import Restatement.Proofs.Verdict

/-!
Findings with the comments that they come from. Settings that spare more comments take the findings
of just these comments out, and settings that only mark findings differently keep them all.
-/

namespace Restatement

/-- Caches by their sizes and by all that was asked of them since they were empty. -/
structure Past where
  patternCapacity : Capacity
  remarkCapacity : Capacity
  requests : List Request

namespace Past

def caches [CharacterNames] (past : Past) : Caches :=
  (Caches.empty past.patternCapacity past.remarkCapacity).serveAll past.requests

theorem caches_faithful [CharacterNames] (past : Past) : past.caches.Faithful :=
  Caches.serveAll_faithful _ (Caches.empty_faithful past.patternCapacity past.remarkCapacity)
    past.requests

end Past

theorem mapped_twice {ε α β γ : Type} (first : α → β) (second : β → γ) (result : Except ε α) :
    (result.map first).map second = result.map fun value => second (first value) := by
  cases result <;> rfl

section Paired

variable (verdict? other? : Comment → Option Finding) (comments : List Comment)

def paired : List (Comment × Finding) :=
  comments.filterMap fun comment => (verdict? comment).map fun finding => (comment, finding)

theorem paired_findings :
    (paired verdict? comments).map (·.2) = comments.filterMap verdict? := by
  simp [paired, List.map_filterMap, Function.comp_def]

theorem paired_comments : ((paired verdict? comments).map (·.1)).Sublist comments := by
  induction comments with
  | nil => exact .slnil
  | cons comment rest ih =>
      cases found : verdict? comment with
      | none =>
          simp only [paired, List.filterMap_cons, found, Option.map_none]
          exact ih.cons comment
      | some finding =>
          simp only [paired, List.filterMap_cons, found, Option.map_some, List.map_cons]
          exact ih.cons_cons comment

theorem mem_paired (comment : Comment) (finding : Finding) :
    (comment, finding) ∈ paired verdict? comments ↔
      comment ∈ comments ∧ verdict? comment = some finding := by
  simp only [paired, List.mem_filterMap, Option.map_eq_some_iff, Prod.mk.injEq]
  constructor
  · rintro ⟨_, member, _, found, rfl, rfl⟩
    exact ⟨member, found⟩
  · rintro ⟨member, found⟩
    exact ⟨comment, member, finding, found, rfl, rfl⟩

theorem paired_hiding (hides : Comment → Bool)
    (hidden : ∀ comment, other? comment = if hides comment then none else verdict? comment) :
    paired other? comments =
      (paired verdict? comments).filter fun pair => !hides pair.1 := by
  rw [paired, paired, List.filter_filterMap]
  congr 1
  funext comment
  rw [hidden]
  cases verdict? comment with
  | none => simp
  | some finding => cases covered : hides comment <;> simp [Option.filter_some, covered]

theorem paired_marking (mark : Comment → Finding → Finding)
    (marked : ∀ comment, other? comment = (verdict? comment).map (mark comment)) :
    paired other? comments =
      (paired verdict? comments).map fun pair => (pair.1, mark pair.1 pair.2) := by
  simp only [paired, List.map_filterMap, marked, Option.map_map]
  rfl

end Paired

namespace Reference

def attributed [CharacterNames] (settings : Settings) (thresholds : Thresholds)
    (file : ParsedFile) :
    Except Pattern.Limit (List (Comment × Finding)) :=
  (settings.ignorePatterns.mapM (CompiledPattern.compile · 0)).map fun patterns =>
    paired (verdict? settings thresholds patterns file.outline) file.comments

/-- What one run spares, another does, and besides the comments that it hides. -/
theorem verdict_hiding (settings other : Settings) (thresholds : Thresholds)
    (patterns others : List CompiledPattern) (outline : Outline) (comment : Comment)
    (hides : Bool) (sensitivity : other.sensitivity = settings.sensitivity)
    (spared : isSpared other others comment = (isSpared settings patterns comment || hides))
    (alike : ∀ construct, finding other thresholds comment construct =
      finding settings thresholds comment construct) :
    verdict? other thresholds others outline comment =
      if hides then none else verdict? settings thresholds patterns outline comment := by
  simp only [verdict?, spared, sensitivity, alike]
  cases hides <;> simp

theorem verdict_marking (settings other : Settings) (thresholds : Thresholds)
    (patterns : List CompiledPattern) (outline : Outline) (comment : Comment)
    (mark : Finding → Finding) (sensitivity : other.sensitivity = settings.sensitivity)
    (spared : isSpared other patterns comment = isSpared settings patterns comment)
    (marked : ∀ construct, finding other thresholds comment construct =
      mark (finding settings thresholds comment construct)) :
    verdict? other thresholds patterns outline comment =
      (verdict? settings thresholds patterns outline comment).map mark := by
  simp only [verdict?, spared, sensitivity, marked]
  split
  · rfl
  · cases adjacent? comment (LineIndex.ofOutline outline) with
    | none => rfl
    | some construct =>
        dsimp only
        split
        · rfl
        · split <;> rfl

end Reference

theorem Reference.attributed_pairs [CharacterNames] (settings : Settings) (thresholds : Thresholds)
    (file : ParsedFile) (pairs : List (Comment × Finding))
    (found : attributed settings thresholds file = .ok pairs) :
    (pairs.map (·.1)).Sublist file.comments ∧ ∀ pair ∈ pairs, pair.2.span = pair.1.span := by
  rw [attributed] at found
  cases outcome : settings.ignorePatterns.mapM (CompiledPattern.compile · 0) with
  | error limit =>
      rw [outcome] at found
      cases found
  | ok patterns =>
      rw [outcome] at found
      cases found
      refine ⟨paired_comments _ _, ?_⟩
      rintro ⟨comment, finding⟩ member
      obtain ⟨-, verdict⟩ := (mem_paired _ _ comment finding).mp member
      obtain ⟨_, _, _, _, rfl⟩ := (verdict_eq_some_iff ..).mp verdict
      rfl

theorem Past.findings_attributed [CharacterNames] (past : Past) (settings : Settings)
    (thresholds : Thresholds) (file : ParsedFile) :
    past.caches.findings settings thresholds file =
      (Reference.attributed settings thresholds file).map (·.map (·.2)) := by
  rw [Caches.findings_eq _ past.caches_faithful, Reference.findings, Reference.attributed]
  cases settings.ignorePatterns.mapM (CompiledPattern.compile · 0) with
  | error limit => rfl
  | ok patterns => exact congrArg Except.ok (paired_findings _ _).symm

def ParsedFile.returning (comments : List Comment) : ParsedFile where
  serial := 0
  path := "a.js"
  language := .javascript
  source := []
  outline := .node { kind := .unknown, nodeType := "program" }
    [.node
      { kind := .return, nodeType := "return_statement", span := some ⟨2, 0, 2, 7, 12, 19⟩ } []]
  comments := comments
  tokens := []

end Restatement
