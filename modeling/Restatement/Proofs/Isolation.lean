import Mathlib.Data.List.Basic
import Restatement.Linter
import Restatement.Proofs.Verdict

/-!
Files do not see each other. The report of a file depends on the rule and on the file alone, so
that one linter gives of each file of a run what a fresh one gives of it, in any order, and a file
that fails leaves nothing behind. A path that the system does not follow is no such file: it ends
the search, and the run with it.
-/

namespace Restatement

/-- A file as it is given to a linter: a text, or a path into a file tree. -/
inductive Submission where
  | text (path content : Text) (language : Option Text) (parsing : Option Parsing)
  | file (tree : FileTree) (path : Path)

namespace Source

def findings (rule : Rule) (source : Except FileFailure Source) :
    Except FileFailure (List Finding) :=
  source.bind fun source => (source.parse 0).map fun parsed => rule.findings parsed.1

/-- The number that tells two readings of one file apart has no part in the findings. -/
theorem parse_findings (rule : Rule) (serial : Nat) (source : Source) :
    ((source.parse serial).map fun parsed => rule.findings parsed.1) =
      (source.parse 0).map fun parsed => rule.findings parsed.1 := by
  simp only [parse]
  cases Language.ofName? source.language with
  | none => rfl
  | some language =>
      cases source.parsing with
      | none => rfl
      | some parsing => rfl

end Source

def Report.ofOutcome (path : Text) (language : Option Text) :
    Except FileFailure (List Finding) → Report
  | .error failure => ⟨path, language, [], some failure⟩
  | .ok findings => ⟨path, language, findings, none⟩

def Submission.report (rule : Rule) : Submission → Report
  | .text path content language parsing =>
      match language.or ((Language.detect? (Path.ofText path)).map Language.name) with
      | none => .ofOutcome path none (.error (.undetected path))
      | some language =>
          .ofOutcome path (some language)
            (Source.findings rule (.ok ⟨path, content, language, parsing⟩))
  | .file tree path =>
      let language := (Language.detect? path).map Language.name
      .ofOutcome path.toText language
        (Source.findings rule (Source.read tree path language Linter.defaultEncoding))

namespace Linter

def lint (linter : Linter) : Submission → Linted
  | .text path content language parsing => linter.lintSource path content language parsing
  | .file tree path => linter.lintFile tree path

def lintAll (linter : Linter) : List Submission → List Report × Linter
  | [] => ([], linter)
  | submission :: rest =>
      let first := linter.lint submission
      let (reports, last) := first.linter.lintAll rest
      (first.report :: reports, last)

/-- What a step of a linter does: it reports by the rule alone, keeps the rule and what can be
relied on, and changes nothing when it fails. -/
structure Steps [CharacterNames] (linter : Linter) (linted : Linted) (report : Report) : Prop where
  reported : linted.report = report
  rule : linted.linter.rule = linter.rule
  faithful : linted.linter.caches.Faithful
  unchanged : report.failed = true → linted.linter = linter

theorem analyze_steps [CharacterNames] (linter : Linter) (faithful : linter.caches.Faithful)
    (path : Text) (language : Option Text) (source : Except FileFailure Source) :
    linter.Steps (linter.analyze path language source)
      (.ofOutcome path language (Source.findings linter.rule source)) := by
  cases source with
  | error failure => exact ⟨rfl, rfl, faithful, fun _ => rfl⟩
  | ok source =>
      have serial := source.parse_findings linter.rule linter.serial
      simp only [analyze, Source.findings, Except.bind]
      rw [← serial]
      cases source.parse linter.serial with
      | error failure => exact ⟨rfl, rfl, faithful, fun _ => rfl⟩
      | ok parsed =>
          obtain ⟨file, events⟩ := parsed
          have checked := linter.rule.check_gives linter.caches faithful file
          refine ⟨?_, rfl, Caches.release_faithful _ checked.faithful file, ?_⟩
          · simp only [checked.value]
            rfl
          · intro failed
            cases failed

theorem lint_steps [CharacterNames] (linter : Linter) (faithful : linter.caches.Faithful)
    (submission : Submission) :
    linter.Steps (linter.lint submission) (submission.report linter.rule) := by
  cases submission with
  | file tree path => exact linter.analyze_steps faithful path.toText _ _
  | text path content language parsing =>
      simp only [lint, lintSource, Submission.report]
      cases language.or ((Language.detect? (Path.ofText path)).map Language.name) with
      | none => exact ⟨rfl, rfl, faithful, fun _ => rfl⟩
      | some language => exact linter.analyze_steps faithful path (some language) _

theorem lintAll_steps [CharacterNames] (linter : Linter) (faithful : linter.caches.Faithful)
    (submissions : List Submission) :
    (linter.lintAll submissions).1 = submissions.map (·.report linter.rule) ∧
      (linter.lintAll submissions).2.rule = linter.rule ∧
      (linter.lintAll submissions).2.caches.Faithful := by
  induction submissions generalizing linter with
  | nil => exact ⟨rfl, rfl, faithful⟩
  | cons submission rest ih =>
      have first := linter.lint_steps faithful submission
      have others := ih (linter.lint submission).linter first.faithful
      rw [first.rule] at others
      refine ⟨?_, others.2⟩
      simp only [lintAll, List.map_cons, first.reported, others.1]

theorem lintFiles_eq (linter : Linter) (tree : FileTree) (paths : List Path) :
    ((linter.lintFiles tree paths).1, (linter.lintFiles tree paths).2.1) =
      linter.lintAll (paths.map (.file tree)) := by
  induction paths generalizing linter with
  | nil => rfl
  | cons path rest ih =>
      have others := ih (linter.lintFile tree path).linter
      simp only [lintFiles, List.map_cons, lintAll, lint, ← others]

theorem lintPaths_eq (linter : Linter) (tree : FileTree) (paths : List Path) :
    let discovery := tree.discover paths
    let linted := linter.lintAll (discovery.files.map (.file tree))
    (linter.lintPaths tree paths).2.1 = linted.2 ∧
      (linter.lintPaths tree paths).1 =
        match discovery.obstacle with
        | none => .ok ⟨linted.1, linter.rule.warnings⟩
        | some obstacle => .error obstacle := by
  intro discovery linted
  have files := linter.lintFiles_eq tree discovery.files
  simp only [lintPaths, linted, ← files]
  cases (tree.discover paths).obstacle with
  | none => exact ⟨rfl, rfl⟩
  | some obstacle => exact ⟨rfl, rfl⟩

theorem create_faithful [CharacterNames] (settings : Settings) (linter : Linter)
    (created : (create settings).1 = .ok linter) : linter.caches.Faithful := by
  have initial := Caches.empty_faithful settings.patternCapacity settings.remarkCapacity
  have given := Rule.create_gives settings {} _ initial
  simp only [create] at created
  cases outcome : (Rule.create settings {}
      (Caches.empty settings.patternCapacity settings.remarkCapacity)).value with
  | error limit =>
      rw [outcome] at created
      cases created
  | ok rule =>
      rw [outcome] at created
      cases created
      exact given.faithful

end Linter

theorem Discovery.andThen_assoc (first second third : Discovery) :
    (first.andThen second).andThen third = first.andThen (second.andThen third) := by
  rcases first with ⟨found, _ | obstacle⟩
  · rcases second with ⟨others, _ | obstacle⟩
    · simp [andThen]
    · rfl
  · rfl

namespace FileTree

variable (tree : FileTree)

theorem open_eq_ok (path : Path) (entry : FileEntry) (opened : tree.open? path = .ok entry) :
    hasNull path = false ∧ ∃ parts, tree.locate path = .file parts entry ∧
      tree.unreadable.contains parts = false := by
  rw [open?] at opened
  split at opened
  · cases opened
  · rename_i noNull
    refine ⟨by simpa using noNull, ?_⟩
    split at opened
    · rename_i parts found located
      split at opened
      · cases opened
      · rename_i readable
        cases opened
        exact ⟨parts, located, by simpa using readable⟩
    · split at opened <;> cases opened
    · cases opened
    · cases opened
    · cases opened

theorem directory_of_opened (path : Path) (entry : FileEntry)
    (opened : tree.open? path = .ok entry) : tree.directory? path = .ok none := by
  obtain ⟨noNull, parts, located, _⟩ := tree.open_eq_ok path entry opened
  simp only [directory?, noNull, located, Bool.false_eq_true, if_false]

theorem discover_plain (paths : List Path)
    (plain : ∀ path ∈ paths, tree.directory? path = .ok none) :
    tree.discover paths = .found paths := by
  induction paths with
  | nil => rfl
  | cons path rest ih =>
      have first : tree.expand path = .found [path] := by
        rw [expand, plain path List.mem_cons_self]
      rw [discover, first, ih fun other member => plain other (List.mem_cons_of_mem path member)]
      rfl

theorem discover_append (before after : List Path) :
    tree.discover (before ++ after) = (tree.discover before).andThen (tree.discover after) := by
  induction before with
  | nil => rfl
  | cons path rest ih => rw [List.cons_append, discover, ih, ← Discovery.andThen_assoc, discover]

theorem discover_refused (before after : List Path) (path : Path) (cause : Refusal)
    (plain : ∀ path ∈ before, tree.directory? path = .ok none)
    (refused : tree.directory? path = .error cause) :
    tree.discover (before ++ path :: after) = ⟨before, some (.refused path cause)⟩ := by
  have stops : tree.expand path = .stopped (.refused path cause) := by rw [expand, refused]
  rw [discover_append, tree.discover_plain before plain, discover, stops]
  simp [Discovery.andThen, Discovery.found, Discovery.stopped]

end FileTree

theorem ofOutcome_failed_or_empty (path : Text) (language : Option Text)
    (outcome : Except FileFailure (List Finding)) :
    (Report.ofOutcome path language outcome).failed = false ∨
      (Report.ofOutcome path language outcome).findings = [] := by
  cases outcome with
  | error failure => exact .inr rfl
  | ok findings => exact .inl rfl

theorem report_failed_or_empty (rule : Rule) (submission : Submission) :
    (submission.report rule).failed = false ∨ (submission.report rule).findings = [] := by
  cases submission with
  | file tree path => exact ofOutcome_failed_or_empty path.toText _ _
  | text path content language parsing =>
      simp only [Submission.report]
      split
      · exact ofOutcome_failed_or_empty path none _
      · exact ofOutcome_failed_or_empty path _ _

/-- One linter over many files gives of each what a fresh linter gives of it alone. So the reports
go with their files in any order, leaving a file out takes its report out and no more, a report
tells of a failure or of findings, and a failure leaves what is remembered as it was. A run over
paths reports of the files that these stand for, or of none of them when the search for files ends
early. Files that are given one by one stand for themselves, and the first that the system does not
follow takes the reports of all others with it. -/
theorem lint_isolated [CharacterNames] (settings : Settings) (fresh : Linter)
    (created : (Linter.create settings).1 = .ok fresh) :
    (∀ submissions, (fresh.lintAll submissions).1 =
      submissions.map fun submission => (fresh.lint submission).report) ∧
    (∀ submissions others : List Submission, submissions.Perm others →
      (submissions.zip (fresh.lintAll submissions).1).Perm
        (others.zip (fresh.lintAll others).1)) ∧
    (∀ before submission after,
      (fresh.lintAll (before ++ submission :: after)).1.eraseIdx before.length =
        (fresh.lintAll (before ++ after)).1) ∧
    (∀ submissions, ∀ report ∈ (fresh.lintAll submissions).1,
      report.failed = false ∨ report.findings = []) ∧
    (∀ before submission,
      ((fresh.lintAll before).2.lint submission).report.failed = true →
        ((fresh.lintAll before).2.lint submission).linter.caches =
          (fresh.lintAll before).2.caches) ∧
    (∀ tree paths,
      let discovery := tree.discover paths
      let linted := fresh.lintAll (discovery.files.map (.file tree))
      (fresh.lintPaths tree paths).2.1 = linted.2 ∧
        (fresh.lintPaths tree paths).1 =
          match discovery.obstacle with
          | none => .ok ⟨linted.1, fresh.rule.warnings⟩
          | some obstacle => .error obstacle) ∧
    (∀ (tree : FileTree) paths, (∀ path ∈ paths, tree.directory? path = .ok none) →
      (fresh.lintPaths tree paths).1 =
        .ok ⟨paths.map fun path => (fresh.lintFile tree path).report, fresh.rule.warnings⟩) ∧
    (∀ (tree : FileTree) before path after cause,
      (∀ path ∈ before, tree.directory? path = .ok none) → tree.directory? path = .error cause →
        (fresh.lintPaths tree (before ++ path :: after)).1 = .error (.refused path cause)) := by
  have faithful := Linter.create_faithful settings fresh created
  have alone : ∀ submission, (fresh.lint submission).report = submission.report fresh.rule := by
    intro submission
    exact (fresh.lint_steps faithful submission).reported
  have reports : ∀ submissions, (fresh.lintAll submissions).1 =
      submissions.map fun submission => (fresh.lint submission).report := by
    intro submissions
    simp only [alone]
    exact (fresh.lintAll_steps faithful submissions).1
  refine ⟨reports, ?_, ?_, ?_, ?_, fresh.lintPaths_eq, ?_, ?_⟩
  · intro submissions others permuted
    simp only [reports, ← List.map_prod_left_eq_zip]
    exact permuted.map _
  · intro before submission after
    simp [reports, List.eraseIdx_append_of_length_le]
  · intro submissions report member
    rw [reports] at member
    obtain ⟨submission, _, rfl⟩ := List.mem_map.mp member
    rw [alone]
    exact report_failed_or_empty fresh.rule submission
  · intro before submission failed
    have steps := (fresh.lintAll before).2.lint_steps
      (fresh.lintAll_steps faithful before).2.2 submission
    rw [steps.reported] at failed
    rw [steps.unchanged failed]
  · intro tree paths plain
    obtain ⟨_, run⟩ := fresh.lintPaths_eq tree paths
    rw [run, tree.discover_plain paths plain]
    simp only [Discovery.found, reports, List.map_map]
    rfl
  · intro tree before path after cause plain refused
    obtain ⟨_, run⟩ := fresh.lintPaths_eq tree (before ++ path :: after)
    rw [run, tree.discover_refused before after path cause plain refused]

def Parsing.restating : Parsing where
  tree := .node ⟨"module", none, true, false, 0, 16, ⟨0, 0⟩, ⟨2, 0⟩⟩
    [.node ⟨"comment", none, true, false, 0, 8, ⟨0, 0⟩, ⟨0, 8⟩⟩ [],
      .node ⟨"return_statement", none, true, false, 9, 15, ⟨1, 0⟩, ⟨1, 6⟩⟩
        [.node ⟨"return", none, false, false, 9, 15, ⟨1, 0⟩, ⟨1, 6⟩⟩ []]]
  hasErrors := false

theorem lint_isolated_missing_between :
    let _ : CharacterNames := .none
    let present : Submission := .text "a.py" "# return\nreturn\n" none (some .restating)
    let missing : Submission := .file { files := [], directories := [] } (.ofText "b.py")
    let fresh : Linter :=
      ⟨⟨{}, {}, [], []⟩, .empty ⟨200, by decide⟩ ⟨300, by decide⟩, 0⟩
    (Linter.create {}).1 = .ok fresh ∧
      ((fresh.lintAll [present]).2.lint missing).report.failed = true ∧
      (fresh.lintAll [present, missing, present]).1 =
        [(fresh.lint present).report, (fresh.lint missing).report, (fresh.lint present).report] ∧
      ((fresh.lintAll [present]).2.lint missing).linter.caches =
        (fresh.lintAll [present]).2.caches := by
  intro _ present missing fresh
  have created : (Linter.create {}).1 = .ok fresh := rfl
  obtain ⟨reports, _, _, _, unchanged, _, _, _⟩ := lint_isolated {} fresh created
  have failed : ((fresh.lintAll [present]).2.lint missing).report.failed = true := rfl
  exact ⟨created, failed, reports [present, missing, present], unchanged [present] missing failed⟩

/-- A name of three hundred letters is longer than the system follows. The file by itself fails, but
among others it leaves no report of any. -/
theorem lint_lost_to_long_name :
    let _ : CharacterNames := .none
    let long : Path := .ofText (List.replicate 300 'a' ++ ".py".toList)
    let tree : FileTree :=
      { files := [(["a.py"], ⟨Utf8.encode "# return\nreturn\n", some .restating⟩)]
        directories := [] }
    let fresh : Linter :=
      ⟨⟨{}, {}, [], []⟩, .empty ⟨200, by decide⟩ ⟨300, by decide⟩, 0⟩
    (Linter.create {}).1 = .ok fresh ∧
      (fresh.lintFile tree (.ofText "a.py")).report.findings.length = 1 ∧
      (fresh.lintFile tree long).report.failure =
        some (.unreadable long.toText (.refused .tooLong)) ∧
      (fresh.lintPaths tree [.ofText "a.py", long]).1 = .error (.refused long .tooLong) := by
  refine ⟨rfl, ?_, ?_, ?_⟩
  · decide +kernel
  · decide +kernel
  · decide +kernel

end Restatement
