import Restatement.Proofs.Agreement

/-!
How the command `explain` ends. A file that cannot be used is named with the reason and ends it with
code two, as a check records the same reason for the file; but content that is no text, and a name
that no system takes, end it without an answer.
-/

namespace Restatement

/-- A file that cannot be used, and why. -/
inductive FileTree.Unusable (tree : FileTree) (path : Path) : FileFailure → Prop
  | undetected (unknown : Language.detect? path = none) :
      Unusable tree path (.unmapped path.toText)
  | unopened (language : Language) (known : Language.detect? path = some language)
      (cause : ReadFailure) (refused : tree.open? path = .error cause) :
      Unusable tree path (.unreadable path.toText cause)
  | undecoded (language : Language) (known : Language.detect? path = some language)
      (entry : FileEntry) (opened : tree.open? path = .ok entry) (error : DecodeError)
      (refused : Encoding.utf8.decode entry.bytes = .error error) :
      Unusable tree path (.unreadable path.toText (.undecodable error))
  | unparsed (language : Language) (known : Language.detect? path = some language)
      (entry : FileEntry) (opened : tree.open? path = .ok entry) (content : Text)
      (decoded : Encoding.utf8.decode entry.bytes = .ok content) (absent : entry.parsing = none) :
      Unusable tree path (.unparsed path.toText)

theorem FileTree.usable_or_not (tree : FileTree) (path : Path) :
    (∃ language content parsing, tree.Holds path language content parsing) ∨
      ∃ failure, tree.Unusable path failure := by
  -- the cases come in the order in which reading and parsing ask
  cases detected : Language.detect? path with
  | none => exact .inr ⟨_, .undetected detected⟩
  | some language =>
      cases opened : tree.open? path with
      | error cause => exact .inr ⟨_, .unopened language detected cause opened⟩
      | ok entry =>
          cases decoded : Encoding.utf8.decode entry.bytes with
          | error error => exact .inr ⟨_, .undecoded language detected entry opened error decoded⟩
          | ok content =>
              cases parsed : entry.parsing with
              | none =>
                  exact .inr ⟨_, .unparsed language detected entry opened content decoded parsed⟩
              | some parsing =>
                  have text : textOf Linter.defaultEncoding entry =
                      .ok (Text.unifyNewlines content) := by
                    rw [textOf_default, decoded]
                  exact .inl ⟨language, _, parsing, detected, entry, opened, text, parsed⟩

theorem FileTree.Unusable.stops {tree : FileTree} {path : Path} {failure : FileFailure}
    (unusable : tree.Unusable path failure) (given : Option Text) (serial : Nat)
    (named : given = none ∨ given = (Language.detect? path).map Language.name) :
    (Source.read tree path given Linter.defaultEncoding).bind (Source.parse serial) =
      .error failure := by
  have told : given.or ((Language.detect? path).map Language.name) =
      (Language.detect? path).map Language.name := by
    rcases named with rfl | rfl
    · rfl
    · exact Option.or_self
  rw [Source.read, told]
  cases unusable with
  | undetected unknown => rw [unknown]; rfl
  | unopened language known cause refused => rw [known, refused]; rfl
  | undecoded language known entry opened error refused =>
      rw [known, opened]
      simp only [Option.map_some, textOf_default, refused]
      rfl
  | unparsed language known entry opened content decoded absent =>
      rw [known, opened]
      simp only [Option.map_some, textOf_default, decoded, Except.bind, Source.parse,
        Language.ofName_name, absent]

theorem FileTree.Unusable.recorded {tree : FileTree} {path : Path} {failure : FileFailure}
    (unusable : tree.Unusable path failure) (linter : Linter) :
    (linter.lintFile tree path).report.failure = some failure := by
  simp only [Linter.lintFile, Linter.analyze, unusable.stops _ linter.serial (.inr rfl),
    Linter.failWith]

theorem FileTree.Holds.recorded {tree : FileTree} {path : Path} {language : Language}
    {content : Text} {parsing : Parsing} (held : tree.Holds path language content parsing)
    (linter : Linter) : (linter.lintFile tree path).report.failure = none := by
  obtain ⟨entry, opened, decoded, parsed⟩ := held.read
  simp only [Linter.lintFile, Linter.analyze, Source.read, held.detected, Option.map_some,
    Option.some_or, opened, decoded, Except.bind, Source.parse, Language.ofName_name, parsed]

def FileFailure.isAnswered : FileFailure → Bool
  | .unreadable _ cause => cause.isSystem
  | _ => true

def FileFailure.told : FileFailure → Text
  | .unreadable place cause => cause.message place
  | failure => failure.error.text

theorem explainFailure_eq (path : Text) (failure : FileFailure)
    (answered : failure.isAnswered = true) :
    explainFailure path failure =
      .ok ⟨[], lines ["❌ " ++ path ++ ": " ++ failure.told], 2⟩ := by
  cases failure with
  | unreadable place cause =>
      have system : cause.isSystem = true := answered
      simp only [explainFailure, system, if_true]
      rfl
  | undetected place => rfl
  | unmapped place => rfl
  | unsupported language place => rfl
  | unparsed place => rfl

theorem FileTree.open_refused (tree : FileTree) (path : Path) (cause : ReadFailure)
    (refused : tree.open? path = .error cause) :
    cause.isSystem = true ∨ cause = .embeddedNull ∧ hasNull path = true := by
  rw [open?] at refused
  split at refused
  case isTrue null =>
      cases refused
      exact .inr ⟨rfl, null⟩
  case isFalse =>
      left
      split at refused
      · split at refused <;> cases refused
        rfl
      · split at refused <;> cases refused <;> rfl
      · cases refused
        rfl
      · cases refused
        rfl
      · cases refused
        rfl

/-- Only what is read can be left without an answer: a name with a null character, or content that
is no text. -/
theorem FileTree.Unusable.unanswered {tree : FileTree} {path : Path} {failure : FileFailure}
    (unusable : tree.Unusable path failure) (silent : failure.isAnswered = false) :
    ∃ cause, failure = .unreadable path.toText cause ∧
      (cause = .embeddedNull ∧ hasNull path = true ∨ ∃ error, cause = .undecodable error) := by
  cases unusable with
  | undetected unknown => cases silent
  | unopened language known cause refused =>
      rcases tree.open_refused path cause refused with system | null
      · rw [FileFailure.isAnswered, system] at silent
        cases silent
      · exact ⟨cause, rfl, .inl null⟩
  | undecoded language known entry opened error refused => exact ⟨_, rfl, .inr ⟨error, rfl⟩⟩
  | unparsed language known entry opened content decoded absent => cases silent

theorem explainLine_ends (caches : Caches) (file : ParsedFile) (line : Int)
    (sensitivity : Sensitivity) :
    ∃ shown, (explainLine caches file line sensitivity).value =
      ⟨shown, [], if file.comments.any (·.span.containsLine line) then 0 else 1⟩ := by
  have empty : (file.comments.filter (·.span.containsLine line)).isEmpty =
      !file.comments.any (·.span.containsLine line) := by
    rw [Bool.eq_iff_iff]
    simp [List.filter_eq_nil_iff]
  simp only [explainLine, empty]
  cases file.comments.any (·.span.containsLine line) with
  | true => exact ⟨_, rfl⟩
  | false => exact ⟨_, rfl⟩

/-- Whatever the file is, `explain` ends in one of three ways, and a check of the same file goes
with it. A file that can be used ends it with code zero, or one when no comment is on the line. A
file that cannot be used ends it with code two and the reason. Only a name with a null character
and content that is no text are left without an answer, although a check records them too. -/
theorem explain_ends [CharacterNames] (options : ExplainOptions) (library : Settings.Library)
    (caches : Caches) (workplace : Workplace) (linter : Linter) :
    let tree := workplace.tree
    let path := options.file
    let run := (Command.explain options).run library caches workplace
    let recorded := (linter.lintFile tree path).report.failure
    (∃ language content parsing shown, tree.Holds path language content parsing ∧
      recorded = none ∧
      let file := ParsedFile.ofTree 0 path.toText language content parsing.tree
      run = .ok ⟨shown, [],
        if file.comments.any (·.span.containsLine options.line) then 0 else 1⟩) ∨
    (∃ failure, tree.Unusable path failure ∧ recorded = some failure ∧
      failure.isAnswered = true ∧
      run = .ok ⟨[], lines ["❌ " ++ path.toText ++ ": " ++ failure.told], 2⟩) ∨
    ∃ cause, tree.Unusable path (.unreadable path.toText cause) ∧
      (cause = .embeddedNull ∧ FileTree.hasNull path = true ∨
        ∃ error, cause = .undecodable error) ∧
      recorded = some (.unreadable path.toText cause) ∧
      run = .error (.reading path.toText cause) := by
  intro tree path run recorded
  rcases tree.usable_or_not path with ⟨language, content, parsing, held⟩ | ⟨failure, unusable⟩
  · left
    obtain ⟨shown, ends⟩ := explainLine_ends caches
      (ParsedFile.ofTree 0 path.toText language content parsing.tree) options.line
      options.sensitivity
    obtain ⟨events, parsed⟩ := held.parsed none (.inl rfl)
    refine ⟨language, content, parsing, shown, held, held.recorded linter, ?_⟩
    simp only [run, Command.run, ExplainOptions.run]
    rw [parsed]
    exact congrArg Except.ok ends
  · right
    have run_eq : run = explainFailure path.toText failure := by
      simp only [run, Command.run, ExplainOptions.run]
      rw [unusable.stops none 0 (.inl rfl)]
    cases answered : failure.isAnswered with
    | true =>
        left
        exact ⟨failure, unusable, unusable.recorded linter, answered,
          run_eq.trans (explainFailure_eq path.toText failure answered)⟩
    | false =>
        right
        obtain ⟨cause, rfl, foreign⟩ := unusable.unanswered answered
        have system : cause.isSystem = false := answered
        refine ⟨cause, unusable, foreign, unusable.recorded linter, run_eq.trans ?_⟩
        simp only [explainFailure, system]
        rfl

/-- Content that is no text ends `explain` without an answer, where a check names the file and ends
with code two. -/
theorem explain_silent_on_bad_byte :
    let _ : CharacterNames := .none
    let library := Settings.Library.standard Settings.usualDepth
    let entry : FileEntry := ⟨[0x23, 0xFF, 0x0A], none⟩
    let workplace : Workplace := ⟨{ files := [(["a.py"], entry)], directories := [] }, []⟩
    let error : DecodeError := .undecodable "utf-8" 1 1 0xFF "invalid start byte"
    (Command.explain ⟨.ofText "a.py", 1, .medium⟩).run library .usual workplace =
        .error (.reading "a.py" (.undecodable error)) ∧
      (Command.check (.ignoring [])).run library .usual workplace =
        .ok ⟨lines ["", "0 finding(s) in 1 file(s), 1 failed"],
          lines ["a.py: [FILE_ANALYSIS_ERROR] 'utf-8' codec can't decode byte 0xff in position " ++
            "1: invalid start byte"], 2⟩ := by
  decide +kernel

end Restatement
