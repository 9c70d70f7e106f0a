import Mathlib.Algebra.GroupWithZero.Nat
import Restatement.Proofs.ExitCodes

/-!
How the command `check` ends. The code tells whether anything was found, else whether a file failed,
in both formats, and what is counted and shown is what a fresh linter finds in each file by itself.
All this is lost when the search for files ends early.
-/

namespace Restatement

namespace Run

theorem findingCount_eq_sum (run : Run) :
    run.findingCount = (run.reports.map fun report => report.findings.length).sum :=
  List.length_flatMap

theorem length_findings (run : Run) : run.findings.length = run.findingCount := by
  simp only [findings, findingCount, List.length_flatMap, List.length_map]

theorem hasFindings_iff (run : Run) :
    run.hasFindings = true ↔ ∃ report ∈ run.reports, report.findings ≠ [] := by
  rw [hasFindings, decide_eq_true_iff, findingCount, List.length_pos_iff, ne_eq,
    List.flatMap_eq_nil_iff]
  simp

theorem failures_isEmpty_iff (run : Run) :
    run.failures.isEmpty = true ↔ ¬∃ report ∈ run.reports, report.failed = true := by
  rw [failures, List.isEmpty_iff, List.filter_eq_nil_iff]
  simp

theorem exitCode_eq (run : Run) :
    run.exitCode =
      if ∃ report ∈ run.reports, report.findings ≠ [] then 1
      else if ∃ report ∈ run.reports, report.failed = true then 2
      else 0 := by
  by_cases found : ∃ report ∈ run.reports, report.findings ≠ []
  · rw [exitCode, if_pos ((hasFindings_iff run).mpr found), if_pos found]
  · rw [exitCode, if_neg (mt (hasFindings_iff run).mp found), if_neg found]
    by_cases failed : ∃ report ∈ run.reports, report.failed = true
    · rw [if_neg (mt (failures_isEmpty_iff run).mp (not_not.mpr failed)), if_pos failed]
    · rw [if_pos ((failures_isEmpty_iff run).mpr failed), if_neg failed]

theorem exitCode_eq_zero_iff (run : Run) :
    run.exitCode = 0 ↔ ∀ report ∈ run.reports, report.failed = false ∧ report.findings = [] := by
  rw [exitCode_eq]
  constructor
  · intro zero report member
    split at zero
    · cases zero
    · split at zero
      · cases zero
      · rename_i nothing none
        push Not at nothing none
        exact ⟨Bool.eq_false_iff.mpr (none report member), nothing report member⟩
  · intro clean
    rw [if_neg, if_neg]
    · rintro ⟨report, member, failed⟩
      rw [(clean report member).1] at failed
      cases failed
    · rintro ⟨report, member, found⟩
      exact found (clean report member).2

theorem member_findingCount (run : Run) :
    run.toJson.member? "finding_count" = some (.int run.findingCount) := rfl

theorem member_files (run : Run) :
    run.toJson.member? "files" = some (.arr (run.reports.map Report.toJson)) := rfl

end Run

theorem Linter.lintFile_failed_iff (linter : Linter) (tree : FileTree) (path : Path) :
    (linter.lintFile tree path).report.failed = false ↔
      ∃ language content parsing, tree.Holds path language content parsing := by
  rcases tree.usable_or_not path with held | ⟨failure, unusable⟩
  · obtain ⟨language, content, parsing, holds⟩ := held
    have recorded := holds.recorded linter
    constructor
    · intro _
      exact ⟨language, content, parsing, holds⟩
    · intro _
      rw [Report.failed, recorded]
      rfl
  · have recorded := unusable.recorded linter
    constructor
    · intro passed
      rw [Report.failed, recorded] at passed
      cases passed
    · rintro ⟨language, content, parsing, holds⟩
      rw [holds.recorded linter] at recorded
      cases recorded

theorem CheckOptions.Prepared.inFormat [CharacterNames] {options : CheckOptions}
    {library : Settings.Library} {workplace : Workplace} {settings : Settings}
    {patterns : List CompiledPattern}
    (prepared : options.Prepared library workplace settings patterns) (asJson : Bool) :
    CheckOptions.Prepared { options with asJson := asJson } library workplace settings patterns :=
  ⟨prepared.loaded, prepared.compiled⟩

theorem Linter.run_of_fresh [CharacterNames] (settings : Settings)
    (patterns : List CompiledPattern)
    (compiled : settings.ignorePatterns.mapM (CompiledPattern.compile · 0) = .ok patterns) :
    ∃ fresh, (create settings).1 = .ok fresh ∧ ∀ tree paths,
      ((Rule.ofPatterns settings {} patterns).run tree paths).reports =
        (tree.discover paths).files.map fun path => (fresh.lintFile tree path).report := by
  obtain ⟨fresh, created, rule⟩ := create_eq settings patterns compiled
  refine ⟨fresh, created, ?_⟩
  intro tree paths
  apply List.map_congr_left
  intro path _
  have steps := fresh.lint_steps (create_faithful settings fresh created) (.file tree path)
  rw [← rule]
  exact steps.reported.symm

/-- A check whose settings load and whose ignore patterns compile or are at fault ends with the same
code in both formats: one when a file that it comes to has a finding, else two when one failed, else
zero, so that zero tells that each file was read, decoded and parsed and had no finding. The text
shows the findings of the files in order, one line for each, and both formats count as many as a
fresh linter finds in the files one by one. Only where the search for files meets an obstacle is
there no report in either format, whatever the files hold that were come upon before. -/
theorem check_ends [CharacterNames] (options : CheckOptions) (library : Settings.Library)
    (caches : Caches) (workplace : Workplace) (settings : Settings)
    (patterns : List CompiledPattern)
    (prepared : options.Prepared library workplace settings patterns) :
    ∃ fresh, (Linter.create settings).1 = .ok fresh ∧
      let tree := workplace.tree
      let files := (tree.discover options.paths).files
      let report := fun path => (fresh.lintFile tree path).report
      let shown := files.flatMap fun path =>
        (report path).findings.map (findingLine (report path).path)
      let count := (files.map fun path => (report path).findings.length).sum
      let failed := (files.filter fun path => (report path).failed).length
      let summary : Text := Text.ofNat count ++ " finding(s) in " ++ Text.ofNat files.length ++
        " file(s), " ++ Text.ofNat failed ++ " failed"
      let run := fun asJson =>
        (Command.check { options with asJson := asJson }).run library caches workplace
      (∀ obstacle, (tree.discover options.paths).obstacle = some obstacle →
        ∀ asJson, run asJson = .error (.searching obstacle)) ∧
      ((tree.discover options.paths).obstacle = none →
        ∃ (code : Nat) (complaints : Text) (json : Json),
          run false = .ok ⟨lines (shown ++ [[], summary]), complaints, code⟩ ∧
          run true = .ok ⟨lines [json.renderIndented 0], [], code⟩ ∧
          shown.length = count ∧ json.member? "finding_count" = some (.int count) ∧
          json.member? "files" = some (.arr (files.map fun path => (report path).toJson)) ∧
          (code = if ∃ path ∈ files, (report path).findings ≠ [] then 1
            else if ∃ path ∈ files, (report path).failed = true then 2 else 0) ∧
          (code = 0 ↔ ∀ path ∈ files,
            (∃ language content parsing, tree.Holds path language content parsing) ∧
              (report path).findings = [])) := by
  obtain ⟨fresh, created, reports⟩ := Linter.run_of_fresh settings patterns prepared.compiled
  refine ⟨fresh, created, ?_⟩
  intro tree files report shown count failed summary ends
  constructor
  · intro obstacle met asJson
    exact (prepared.inFormat asJson).stops caches obstacle met
  intro unobstructed
  let run := (Rule.ofPatterns settings {} patterns).run tree options.paths
  have formats : ∀ asJson,
      ends asJson = .ok (CheckOptions.outcome { options with asJson := asJson } run) := by
    intro asJson
    exact (prepared.inFormat asJson).runs caches unobstructed
  have each : run.reports = files.map report := reports tree options.paths
  have counted : run.findingCount = count := by
    rw [run.findingCount_eq_sum, each, List.map_map]
    rfl
  have lineByLine : (run.findings.map fun pair => findingLine pair.1 pair.2) = shown := by
    simp only [Run.findings, each, List.map_flatMap, List.flatMap_map, List.map_map]
    rfl
  have failures : run.failures.length = failed := by
    rw [Run.failures, each, List.filter_map, List.length_map]
    rfl
  have summarized : run.summary = summary := by
    rw [Run.summary, counted, failures, each, List.length_map]
  refine ⟨run.exitCode, run.textOutcome.stderr, run.toJson, ?_, ?_, ?_, ?_, ?_, ?_, ?_⟩
  · rw [formats false, ← summarized, ← lineByLine]
    rfl
  · exact formats true
  · rw [← lineByLine, List.length_map, run.length_findings, counted]
  · rw [run.member_findingCount, counted]
  · rw [run.member_files, each, List.map_map]
    rfl
  · rw [run.exitCode_eq, each]
    simp
  · rw [run.exitCode_eq_zero_iff, each, List.forall_mem_map]
    simp only [report, fresh.lintFile_failed_iff]

theorem check_ends_found_beside_missing :
    let _ : CharacterNames := .none
    let library := Settings.Library.standard Settings.usualDepth
    let options : CheckOptions :=
      { CheckOptions.ignoring [] with paths := [.ofText "gone.py", .ofText "a.py"] }
    options.Prepared library .restating {} [] ∧
      ∃ shown complaints json,
        (Command.check { options with asJson := false }).run library .usual .restating =
          .ok ⟨shown, complaints, 1⟩ ∧
        (Command.check { options with asJson := true }).run library .usual .restating =
          .ok ⟨json, [], 1⟩ := by
  intro _ library options
  have prepared : options.Prepared library .restating {} [] :=
    ⟨⟨{}, by decide +kernel, rfl⟩, rfl⟩
  obtain ⟨fresh, created, _, found⟩ := check_ends options library .usual .restating {} [] prepared
  obtain ⟨code, complaints, json, text, rendered, _, _, _, chosen, _⟩ := found (by decide +kernel)
  cases created
  rw [if_pos] at chosen
  · subst chosen
    exact ⟨prepared, _, complaints, _, text, rendered⟩
  · refine ⟨.ofText "a.py", ?_, ?_⟩
    · decide +kernel
    · decide +kernel

/-- A name of three hundred letters ends a check without a report, although a check of the first
file alone ends with code one. -/
theorem check_lost_to_long_name :
    let _ : CharacterNames := .none
    let library := Settings.Library.standard Settings.usualDepth
    let long : Path := .ofText (List.replicate 300 'a' ++ ".py".toList)
    let options : CheckOptions :=
      { CheckOptions.ignoring [] with paths := [.ofText "a.py", long] }
    options.Prepared library .restating {} [] ∧
      ((Command.check (.ignoring [])).run library .usual .restating).map (·.exitCode) = .ok 1 ∧
      (Command.check options).run library .usual .restating =
        .error (.searching (.refused long .tooLong)) := by
  intro _ library long options
  refine ⟨⟨⟨{}, by decide +kernel, rfl⟩, rfl⟩, ?_, ?_⟩
  · decide +kernel
  · decide +kernel

end Restatement
