import Mathlib.Data.List.Basic
import Restatement.Proofs.ExitCodes
import Restatement.Proofs.NormalForms

/-!
A file is linted as its text is. A path reads back as the path it was written from, so that a text
under the name of a file has the language of the file, and both come to the same report.
-/

namespace Restatement

namespace Text

theorem separator_not_mem (separator : Char) (t : Text) :
    ∀ piece ∈ splitOn separator t, separator ∉ piece := by
  induction t with
  | nil => simp [splitOn]
  | cons c rest ih =>
      rw [splitOn]
      split
      case isTrue same =>
          intro piece member
          rcases List.mem_cons.mp member with rfl | later
          · exact List.not_mem_nil
          · exact ih piece later
      case isFalse other =>
          cases split : splitOn separator rest with
          | nil => simpa using Ne.symm other
          | cons first others =>
              rw [split] at ih
              intro piece member
              rcases List.mem_cons.mp member with rfl | later
              · have clean := ih first List.mem_cons_self
                simpa using ⟨Ne.symm other, clean⟩
              · exact ih piece (List.mem_cons_of_mem first later)

theorem splitOn_joinWith (separator : Char) (parts : List Text) (nonempty : parts ≠ [])
    (clean : ∀ part ∈ parts, separator ∉ part) :
    splitOn separator (joinWith [separator] parts) = parts := by
  rw [splitOn_eq]
  exact List.splitOn_intercalate separator clean nonempty

end Text

namespace Path

def IsComponent (part : Text) : Prop := part ≠ [] ∧ part ≠ ['.'] ∧ '/' ∉ part

structure Normal (path : Path) : Prop where
  root : path.root = [] ∨ path.root = ['/'] ∨ path.root = ['/', '/']
  parts : ∀ part ∈ path.parts, IsComponent part

theorem rootOf_cases (t : Text) : rootOf t = [] ∨ rootOf t = ['/'] ∨ rootOf t = ['/', '/'] := by
  rw [rootOf]
  split
  · exact .inl rfl
  · exact .inr (.inr rfl)
  · exact .inr (.inl rfl)

theorem ofText_normal (t : Text) : (ofText t).Normal := by
  refine ⟨rootOf_cases t, ?_⟩
  intro part member
  obtain ⟨piece, kept⟩ := List.mem_filter.mp member
  have clean := Text.separator_not_mem '/' t part piece
  simp at kept
  exact ⟨kept.1, kept.2, clean⟩

theorem split_joined (parts : List Text) (components : ∀ part ∈ parts, IsComponent part) :
    (Text.splitOn '/' (Text.joinWith ['/'] parts)).filter
      (fun part => !part.isEmpty && part != ['.']) = parts := by
  cases parts with
  | nil => rfl
  | cons first rest =>
      rw [Text.splitOn_joinWith '/' _ (List.cons_ne_nil first rest)
        fun part member => (components part member).2.2]
      apply List.filter_eq_self.mpr
      intro part member
      obtain ⟨nonempty, moves, _⟩ := components part member
      simp [nonempty, moves]

theorem takeWhile_joined (parts : List Text) (components : ∀ part ∈ parts, IsComponent part) :
    (Text.joinWith ['/'] parts).takeWhile (· == '/') = [] := by
  cases parts with
  | nil => rfl
  | cons first rest =>
      obtain ⟨nonempty, _, clean⟩ := components first List.mem_cons_self
      obtain ⟨c, tail, rfl⟩ := List.exists_cons_of_ne_nil nonempty
      have other : (c == '/') = false := by
        simpa using fun same : c = '/' => clean (same ▸ List.mem_cons_self)
      have joined : ∃ after, Text.joinWith ['/'] ((c :: tail) :: rest) = c :: after := by
        cases rest with
        | nil => exact ⟨tail, List.intercalate_singleton ..⟩
        | cons second others =>
            rw [Text.joinWith, List.intercalate_cons_cons, List.append_assoc]
            exact ⟨_, rfl⟩
      obtain ⟨after, starts⟩ := joined
      rw [starts, List.takeWhile_cons, other]
      rfl

theorem ofText_toText (path : Path) (normal : path.Normal) : ofText path.toText = path := by
  obtain ⟨root, parts⟩ := path
  obtain ⟨roots, components⟩ := normal
  have split := split_joined parts components
  have head := takeWhile_joined parts components
  -- separators in front make a root, and the pieces that they cut off are empty
  rcases roots with rfl | rfl | rfl
  · cases parts with
    | nil => rfl
    | cons first rest =>
        simp only [toText, ofText, rootOf, List.nil_append, head, split, List.length_nil]
  · simp [toText, ofText, rootOf, Text.splitOn, head, split]
  · simp [toText, ofText, rootOf, Text.splitOn, head, split]

end Path

theorem Report.path_ofOutcome (path : Text) (language : Option Text)
    (outcome : Except FileFailure (List Finding)) :
    (Report.ofOutcome path language outcome).path = path := by
  cases outcome <;> rfl

theorem Report.language_ofOutcome (path : Text) (language : Option Text)
    (outcome : Except FileFailure (List Finding)) :
    (Report.ofOutcome path language outcome).language = language := by
  cases outcome <;> rfl

theorem Linter.lintFile_eq_lintSource (linter : Linter) (tree : FileTree) (path : Path)
    (normal : path.Normal) (language : Language)
    (supported : Language.detect? path = some language) (entry : FileEntry)
    (opened : tree.open? path = .ok entry) (content : Text)
    (decoded : Encoding.utf8.decode entry.bytes = .ok content) :
    linter.lintFile tree path =
      linter.lintSource path.toText (Text.unifyNewlines content) none entry.parsing := by
  have again : Language.detect? (Path.ofText path.toText) = some language := by
    rw [Path.ofText_toText path normal, supported]
  simp only [lintFile, lintSource, Source.read, supported, again, opened, Option.map_some,
    Option.some_or, Option.none_or, FileTree.textOf_default, decoded]

/-- Linters of the same settings, each with a past of its own, report of a file what they report of
its text with all line ends made line feeds, under the file's name and with the language left to be
told by it. Both fail when the parser makes nothing of the text, and only then. -/
theorem file_linted_as_text [CharacterNames] (settings : Settings) (fresh : Linter)
    (created : (Linter.create settings).1 = .ok fresh) (tree : FileTree) (given : Text)
    (language : Language) (supported : Language.detect? (.ofText given) = some language)
    (entry : FileEntry) (opened : tree.open? (.ofText given) = .ok entry) (content : Text)
    (decoded : Encoding.utf8.decode entry.bytes = .ok content) :
    let path := Path.ofText given
    let text := Text.unifyNewlines content
    let report := (fresh.lintFile tree path).report
    (∀ linter : Linter,
      linter.lintFile tree path = linter.lintSource path.toText text none entry.parsing) ∧
    (∀ earlier : List Submission,
      ((fresh.lintAll earlier).2.lintFile tree path).report = report) ∧
    (∀ earlier : List Submission,
      ((fresh.lintAll earlier).2.lintSource path.toText text none entry.parsing).report = report) ∧
    report.path = path.toText ∧ report.language = some language.name ∧
    report.failure = if entry.parsing.isSome then none else some (.unparsed path.toText) := by
  intro path text report
  have same : ∀ linter : Linter,
      linter.lintFile tree path = linter.lintSource path.toText text none entry.parsing := by
    intro linter
    exact linter.lintFile_eq_lintSource tree path (Path.ofText_normal given) language supported
      entry opened content decoded
  have faithful := Linter.create_faithful settings fresh created
  have alone : report = (Submission.file tree path).report fresh.rule :=
    (fresh.lint_steps faithful (.file tree path)).reported
  have later : ∀ earlier : List Submission,
      ((fresh.lintAll earlier).2.lintFile tree path).report = report := by
    intro earlier
    obtain ⟨_, rule, kept⟩ := fresh.lintAll_steps faithful earlier
    have reported := ((fresh.lintAll earlier).2.lint_steps kept (.file tree path)).reported
    rw [rule, ← alone] at reported
    exact reported
  refine ⟨same, later, ?_, ?_, ?_, ?_⟩
  · intro earlier
    rw [← same, later]
  · rw [alone]
    exact Report.path_ofOutcome ..
  · rw [alone, Submission.report, supported]
    exact Report.language_ofOutcome ..
  · cases parsed : entry.parsing with
    | some parsing =>
        have held : tree.Holds path language text parsing := by
          refine ⟨supported, entry, opened, ?_, parsed⟩
          rw [FileTree.textOf_default, decoded]
        exact held.recorded fresh
    | none =>
        have unusable : tree.Unusable path (.unparsed path.toText) :=
          .unparsed language supported entry opened content decoded parsed
        exact unusable.recorded fresh

theorem file_linted_as_text_two_line_ends :
    let _ : CharacterNames := .none
    let tree : FileTree :=
      { files := [(["home", "src", "A.PY"],
          ⟨Utf8.encode "# return\r\nreturn\r", some .restating⟩)]
        directories := []
        current := ["home", "work"] }
    let fresh : Linter := ⟨⟨{}, {}, [], []⟩, .empty ⟨200, by decide⟩ ⟨300, by decide⟩, 0⟩
    (Linter.create {}).1 = .ok fresh ∧
      Encoding.utf8.decode (Utf8.encode "# return\r\nreturn\r") = .ok "# return\r\nreturn\r" ∧
      (fresh.lintFile tree (.ofText "/home/./src//A.PY")).report.findings.length = 1 ∧
      fresh.lintFile tree (.ofText "/home/./src//A.PY") =
        fresh.lintSource "/home/src/A.PY" "# return\nreturn\n" none (some .restating) ∧
      fresh.lintFile tree (.ofText "../src//A.PY") =
        fresh.lintSource "../src/A.PY" "# return\nreturn\n" none (some .restating) := by
  intro _ tree fresh
  have created : (Linter.create {}).1 = .ok fresh := rfl
  have decoded : Encoding.utf8.decode (Utf8.encode "# return\r\nreturn\r") =
      .ok "# return\r\nreturn\r" := by
    decide +kernel
  obtain ⟨rooted, _⟩ := file_linted_as_text {} fresh created tree "/home/./src//A.PY" .python
    (by decide +kernel) _ rfl _ decoded
  obtain ⟨climbing, _⟩ := file_linted_as_text {} fresh created tree "../src//A.PY" .python
    (by decide +kernel) _ rfl _ decoded
  exact ⟨created, decoded, by decide +kernel, rooted fresh, climbing fresh⟩

end Restatement
