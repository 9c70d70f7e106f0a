import Restatement.Proofs.Remembered
import Restatement.Rule

/-!
The verdict on a comment by itself, and the rule that gives just these verdicts: whatever was asked
of the caches before, the findings of a file are the verdicts on its comments, one after the other.
-/

namespace Restatement

namespace Reference

def isSpared (settings : Settings) (patterns : List CompiledPattern) (comment : Comment) : Bool :=
  let classification := comment.classify
  classification.isSkipped settings.policy ||
    (classification.isDocBlock || classification.isDirective) ||
    Wording.isExempt comment.firstLine ||
    patterns.any (·.search comment.firstLine) ||
    (comment.trailing && !settings.checkTrailing) ||
    (!comment.trailing && !settings.checkLeading)

def finding (settings : Settings) (thresholds : Thresholds) (comment : Comment)
    (construct : Construct) : Finding where
  severity := if comment.classify.handling settings.policy = .strict then .error else .warning
  span := comment.span
  shown := Text.truncate comment.firstLine thresholds.messageLimit
  construct := construct.kind

/-- The verdict on one comment. Nothing is remembered: the comment is classified anew and the lines
of the outline are indexed anew. -/
def verdict? (settings : Settings) (thresholds : Thresholds) (patterns : List CompiledPattern)
    (outline : Outline) (comment : Comment) : Option Finding :=
  if isSpared settings patterns comment then none
  else
    match adjacent? comment (LineIndex.ofOutline outline) with
    | none => none
    | some construct =>
        if construct.glosses.isEmpty then none
        else if isObvious thresholds settings.sensitivity comment.firstLine construct.glosses then
          some (finding settings thresholds comment construct)
        else none

/-- The verdicts on the comments of a file, in order; a limit of the pattern engine stands in the
way of all of them. -/
def findings [CharacterNames] (settings : Settings) (thresholds : Thresholds) (file : ParsedFile) :
    Except Pattern.Limit (List Finding) :=
  (settings.ignorePatterns.mapM (CompiledPattern.compile · 0)).map fun patterns =>
    file.comments.filterMap (verdict? settings thresholds patterns file.outline)

end Reference

theorem isObvious_nil (thresholds : Thresholds) (sensitivity : Sensitivity) (line : Text) :
    isObvious thresholds sensitivity line [] = false := by
  simp only [isObvious, List.map_nil, List.any_nil, Bool.and_false]

theorem Reference.verdict_eq_some_iff (settings : Settings) (thresholds : Thresholds)
    (patterns : List CompiledPattern) (outline : Outline) (comment : Comment) (found : Finding) :
    verdict? settings thresholds patterns outline comment = some found ↔
      isSpared settings patterns comment = false ∧
        ∃ construct, adjacent? comment (LineIndex.ofOutline outline) = some construct ∧
          isObvious thresholds settings.sensitivity comment.firstLine construct.glosses = true ∧
          finding settings thresholds comment construct = found := by
  unfold verdict?
  cases isSpared settings patterns comment with
  | true => simp
  | false =>
      cases adjacent? comment (LineIndex.ofOutline outline) with
      | none => simp
      | some construct =>
          cases glosses : construct.glosses with
          | nil => simp [glosses, isObvious_nil]
          | cons gloss rest => simp [glosses]

namespace Rule

def withPatterns (rule : Rule) (compiled : List CompiledPattern) : Rule :=
  { rule with
    patterns := rule.patterns ++ compiled.filter CompiledPattern.isValid
    warnings := rule.warnings ++ compiled.filterMap fun pattern =>
      pattern.error?.map (warning pattern.source) }

def ofPatterns (settings : Settings) (thresholds : Thresholds) (compiled : List CompiledPattern) :
    Rule :=
  (Rule.mk settings thresholds [] []).withPatterns compiled

theorem addPattern_eq (rule : Rule) (pattern : CompiledPattern) :
    (rule.addPattern pattern).1 = rule.withPatterns [pattern] := by
  rcases pattern with ⟨source, outcome⟩
  cases outcome with
  | ok compiled =>
      have valid : CompiledPattern.isValid ⟨source, .ok compiled⟩ = true := rfl
      simp [addPattern, withPatterns, CompiledPattern.error?, valid]
  | error fault =>
      have invalid : CompiledPattern.isValid ⟨source, .error fault⟩ = false := rfl
      simp [addPattern, withPatterns, CompiledPattern.error?, invalid]

theorem withPatterns_append (rule : Rule) (first second : List CompiledPattern) :
    (rule.withPatterns first).withPatterns second = rule.withPatterns (first ++ second) := by
  simp only [withPatterns, List.filter_append, List.filterMap_append, List.append_assoc]

theorem addPatterns_gives [CharacterNames] (caches : Caches) (faithful : caches.Faithful)
    (rule : Rule) (sources : List Text) :
    (addPatterns caches rule sources).Gives
      ((sources.mapM (CompiledPattern.compile · 0)).map rule.withPatterns) := by
  induction sources generalizing caches rule with
  | nil =>
      refine ⟨?_, faithful⟩
      simp [addPatterns, withPatterns, Except.map, pure, Except.pure]
  | cons source rest ih =>
      have first := caches.compile_gives faithful source 0
      rw [List.mapM_cons]
      simp only [addPatterns]
      rw [first.value]
      cases fresh : CompiledPattern.compile source 0 with
      | error limit => exact ⟨rfl, first.faithful⟩
      | ok pattern =>
          have others := ih (caches.compile source 0).caches first.faithful
            (rule.addPattern pattern).1
          refine ⟨?_, others.faithful⟩
          rw [others.value, addPattern_eq]
          cases rest.mapM (CompiledPattern.compile · 0) with
          | error limit => rfl
          | ok compiled =>
              exact congrArg Except.ok (withPatterns_append rule [pattern] compiled)

theorem create_gives [CharacterNames] (settings : Settings) (thresholds : Thresholds)
    (caches : Caches) (faithful : caches.Faithful) :
    (create settings thresholds caches).Gives
      ((settings.ignorePatterns.mapM (CompiledPattern.compile · 0)).map
        (ofPatterns settings thresholds)) :=
  addPatterns_gives caches faithful _ settings.ignorePatterns

def verdict? (rule : Rule) (index : LineIndex) (comment : Comment) : Option Finding :=
  if rule.examines (comment, comment.classify) then rule.judge? index (comment, comment.classify)
  else none

def findings (rule : Rule) (file : ParsedFile) : List Finding :=
  file.comments.filterMap (rule.verdict? (LineIndex.ofOutline file.outline))

theorem examined_judged (rule : Rule) (file : ParsedFile) :
    (file.classified.filter rule.examines).filterMap
        (rule.judge? (LineIndex.ofOutline file.outline)) = rule.findings file := by
  rw [List.filterMap_filter, ParsedFile.classified, List.filterMap_map]
  rfl

theorem check_gives [CharacterNames] (rule : Rule) (caches : Caches) (faithful : caches.Faithful)
    (file : ParsedFile) : (rule.check caches file).Gives (rule.findings file) := by
  have classified := caches.classifyFile_gives faithful file
  have index := (caches.classifyFile file).caches.indexFile_gives classified.faithful file
  simp only [check]
  rw [classified.value, ← examined_judged]
  split
  case isTrue empty =>
      refine ⟨?_, classified.faithful⟩
      rw [List.isEmpty_iff.mp empty]
      rfl
  case isFalse =>
      refine ⟨?_, index.faithful⟩
      rw [index.value]

/-- A pattern at fault is found nowhere, so that leaving it out changes nothing. -/
theorem valid_and_search (pattern : CompiledPattern) (t : Text) :
    (pattern.isValid && pattern.search t) = pattern.search t := by
  rcases pattern with ⟨source, outcome⟩
  cases outcome <;> rfl

theorem ofPatterns_ignores (settings : Settings) (thresholds : Thresholds)
    (compiled : List CompiledPattern) (t : Text) :
    (ofPatterns settings thresholds compiled).ignores t = compiled.any (·.search t) := by
  simp only [ignores, ofPatterns, withPatterns, List.nil_append, List.any_filter, valid_and_search]

theorem ofPatterns_examines (settings : Settings) (thresholds : Thresholds)
    (compiled : List CompiledPattern) (comment : Comment) :
    (ofPatterns settings thresholds compiled).examines (comment, comment.classify) =
      !Reference.isSpared settings compiled comment := by
  have policy : (ofPatterns settings thresholds compiled).settings = settings := rfl
  simp only [examines, Reference.isSpared, ofPatterns_ignores, checksPlace, policy, Bool.not_or]
  cases comment.trailing <;> simp [Bool.and_assoc]

theorem judge_eq (rule : Rule) (index : LineIndex) (classified : Classified) :
    rule.judge? index classified =
      match adjacent? classified.1 index with
      | none => none
      | some construct =>
          if rule.isRestatement classified.1 construct then some (rule.finding classified construct)
          else none := by
  unfold judge?
  cases adjacent? classified.1 index with
  | none => rfl
  | some construct =>
      change Option.bind (guard (rule.isRestatement classified.1 construct = true))
          (fun _ => some (rule.finding classified construct)) =
        if rule.isRestatement classified.1 construct then some (rule.finding classified construct)
        else none
      cases rule.isRestatement classified.1 construct with
      | true => rfl
      | false => rfl

theorem ofPatterns_verdict (settings : Settings) (thresholds : Thresholds)
    (compiled : List CompiledPattern) (outline : Outline) (comment : Comment) :
    (ofPatterns settings thresholds compiled).verdict? (LineIndex.ofOutline outline) comment =
      Reference.verdict? settings thresholds compiled outline comment := by
  simp only [verdict?, Reference.verdict?, ofPatterns_examines, judge_eq]
  cases Reference.isSpared settings compiled comment with
  | true => rfl
  | false =>
      cases adjacent? comment (LineIndex.ofOutline outline) with
      | none => rfl
      | some construct =>
          cases glosses : construct.glosses with
          | nil =>
              have silent : (ofPatterns settings thresholds compiled).isRestatement comment
                  construct = false := by
                simp only [isRestatement, glosses, isObvious_nil]
              simp [silent, glosses]
          | cons gloss rest =>
              simp only [isRestatement, glosses]
              rfl

/-- A rule that was set up over caches that can be relied on, with whatever is asked of them until
it checks a file. -/
theorem create_then_check [CharacterNames] (settings : Settings) (thresholds : Thresholds)
    (before after : Caches) (faithfulBefore : before.Faithful) (faithfulAfter : after.Faithful)
    (file : ParsedFile) :
    ((create settings thresholds before).value.map fun rule => (rule.check after file).value) =
      Reference.findings settings thresholds file := by
  have created := create_gives settings thresholds before faithfulBefore
  rw [created.value, Reference.findings]
  cases settings.ignorePatterns.mapM (CompiledPattern.compile · 0) with
  | error limit => rfl
  | ok compiled =>
      have checked := check_gives (ofPatterns settings thresholds compiled) after faithfulAfter file
      apply congrArg Except.ok
      calc
        _ = (ofPatterns settings thresholds compiled).findings file := checked.value
        _ = _ := by
          simp only [findings]
          congr 1
          funext comment
          exact ofPatterns_verdict settings thresholds compiled file.outline comment

end Rule

def Caches.findings [CharacterNames] (caches : Caches) (settings : Settings)
    (thresholds : Thresholds) (file : ParsedFile) : Except Pattern.Limit (List Finding) :=
  let created := Rule.create settings thresholds caches
  created.value.map fun rule => (rule.check created.caches file).value

theorem Caches.findings_eq [CharacterNames] (caches : Caches) (faithful : caches.Faithful)
    (settings : Settings) (thresholds : Thresholds) (file : ParsedFile) :
    caches.findings settings thresholds file = Reference.findings settings thresholds file :=
  Rule.create_then_check settings thresholds caches _ faithful
    (Rule.create_gives settings thresholds caches faithful).faithful file

/-- What can be asked of the caches. A file is released when it is no longer in use. -/
inductive Request where
  | create (settings : Settings) (thresholds : Thresholds)
  | check (rule : Rule) (file : ParsedFile)
  | classify (comment : Comment)
  | classifyFile (file : ParsedFile)
  | indexFile (file : ParsedFile)
  | compile (source : Text) (flags : Nat)
  | clear
  | release (file : ParsedFile)

namespace Caches

def serve [CharacterNames] (caches : Caches) : Request → Caches
  | .create settings thresholds => (Rule.create settings thresholds caches).caches
  | .check rule file => (rule.check caches file).caches
  | .classify comment => (caches.classify comment).caches
  | .classifyFile file => (caches.classifyFile file).caches
  | .indexFile file => (caches.indexFile file).caches
  | .compile source flags => (caches.compile source flags).caches
  | .clear => caches.clear
  | .release file => caches.release file

def serveAll [CharacterNames] (caches : Caches) (requests : List Request) : Caches :=
  requests.foldl serve caches

theorem serve_faithful [CharacterNames] (caches : Caches) (faithful : caches.Faithful)
    (request : Request) :
    (caches.serve request).Faithful := by
  cases request with
  | create settings thresholds =>
      exact (Rule.create_gives settings thresholds caches faithful).faithful
  | check rule file => exact (rule.check_gives caches faithful file).faithful
  | classify comment => exact (caches.classify_gives faithful comment).faithful
  | classifyFile file => exact (caches.classifyFile_gives faithful file).faithful
  | indexFile file => exact (caches.indexFile_gives faithful file).faithful
  | compile source flags => exact (caches.compile_gives faithful source flags).faithful
  | clear => exact caches.clear_faithful faithful
  | release file => exact caches.release_faithful faithful file

theorem serveAll_faithful [CharacterNames] (caches : Caches) (faithful : caches.Faithful)
    (requests : List Request) : (caches.serveAll requests).Faithful := by
  induction requests generalizing caches with
  | nil => exact faithful
  | cons request rest ih => exact ih (caches.serve request) (caches.serve_faithful faithful request)

end Caches

/-- Whatever was asked of the caches before the rule was set up, and between that and the check,
the findings are the verdicts on the comments of the file. -/
theorem check_after_requests [CharacterNames] (patternCapacity remarkCapacity : Capacity)
    (earlier between : List Request) (settings : Settings) (thresholds : Thresholds)
    (file : ParsedFile) :
    let created := Rule.create settings thresholds
      ((Caches.empty patternCapacity remarkCapacity).serveAll earlier)
    (created.value.map fun rule => (rule.check (created.caches.serveAll between) file).value) =
      Reference.findings settings thresholds file := by
  intro created
  have initial := Caches.empty_faithful patternCapacity remarkCapacity
  have before := Caches.serveAll_faithful _ initial earlier
  have after : created.caches.Faithful := (Rule.create_gives settings thresholds _ before).faithful
  exact Rule.create_then_check settings thresholds _ _ before
    (Caches.serveAll_faithful _ after between) file

end Restatement
