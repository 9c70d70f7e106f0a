import Restatement.Proofs.Isolation
import Restatement.Proofs.Locality
import Restatement.Proofs.ShiftedTree

/-!
Blank lines in front of a source move its findings down and do nothing else to them: no line and no
offset is special.
-/

namespace Restatement

theorem startLine_shift (count : Nat) (construct : Construct) (line : Int) :
    (construct.shift count).startLine? = some (line + count) ↔
      construct.startLine? = some line := by
  simp only [Construct.startLine?, Construct.shift]
  cases construct.span with
  | none => simp
  | some span => simp [Span.shift]

namespace Outline

mutual

theorem preorder_shift (count : Nat) :
    ∀ outline : Outline, (outline.shift count).preorder =
      outline.preorder.map (Construct.shift count)
  | .node construct children => by
      rw [shift, preorder, preorderAll_shift count children, preorder, List.map_cons]

theorem preorderAll_shift (count : Nat) :
    ∀ outlines : List Outline, preorderAll (shiftAll count outlines) =
      (preorderAll outlines).map (Construct.shift count)
  | [] => rfl
  | outline :: rest => by
      rw [shiftAll, preorderAll, preorder_shift count outline, preorderAll_shift count rest,
        preorderAll, List.map_append]

end

theorem startingOn_shift (count : Nat) (outline : Outline) (line : Int) :
    (outline.shift count).startingOn (line + count) =
      (outline.startingOn line).map (Construct.shift count) := by
  simp only [startingOn, preorder_shift, List.filter_map, Function.comp_def, startLine_shift]

end Outline

theorem startsPast_shift (count : Nat) (offset : Int) (construct : Construct) :
    (construct.shift count).startsPast (offset + count) = construct.startsPast offset := by
  simp only [Construct.startsPast, Construct.shift]
  cases construct.span with
  | none => rfl
  | some span => simp [Span.shift]

theorem alike_shift (count : Nat) (construct : Construct) :
    construct.Alike (construct.shift count) :=
  ⟨rfl, rfl, rfl, rfl⟩

theorem surrounded_shift (count : Nat) (comment : Comment) (outline : Outline) :
    Surrounded (fun a b => b = a.shift count) comment (comment.shift count) (.ofOutline outline)
      (.ofOutline (outline.shift count)) := by
  have lines : ∀ line : Int, List.Forall₂ (fun a b => b = a.shift count)
      (outline.startingOn line) ((outline.shift count).startingOn (line + count)) := by
    intro line
    rw [outline.startingOn_shift, List.forall₂_map_right_iff]
    exact List.forall₂_same.mpr fun _ _ => rfl
  simp only [← LineIndex.atLine_ofOutline] at lines
  refine ⟨rfl, ?_, ?_⟩
  · intro distance _
    have moved : (comment.shift count).span.endLine + 1 + distance =
        comment.span.endLine + 1 + distance + count := by
      simp only [Comment.shift, Span.shift]
      omega
    rw [moved]
    exact lines _
  · intro _
    exact lines _

def Finding.shift (count : Nat) (finding : Finding) : Finding :=
  { finding with span := finding.span.shift count }

namespace Rule

theorem verdict_shift (rule : Rule) (count : Nat) (outline : Outline) (comment : Comment) :
    rule.verdict? (.ofOutline (outline.shift count)) (comment.shift count) =
      (rule.verdict? (.ofOutline outline) comment).map (Finding.shift count) := by
  have next := adjacent_related _ comment (comment.shift count) _ _
    (surrounded_shift count comment outline)
    (by rintro a b rfl; rfl) (by rintro a b rfl; exact (startsPast_shift count _ a).symm)
  have alike := rel_weaken Construct.Alike (by rintro a b rfl; exact alike_shift count a) _ _ next
  rw [rule.verdict_of_alike comment (comment.shift count) _ _ rfl rfl rfl alike]
  cases found : rule.verdict? (.ofOutline outline) comment with
  | none => rfl
  | some finding =>
      have place := rule.verdict_span _ comment finding found
      simp only [Option.map_some, Finding.shift, place]
      rfl

theorem findings_shift (rule : Rule) (count : Nat) (file moved : ParsedFile)
    (comments : moved.comments = file.comments.map (Comment.shift count))
    (outlines : moved.outline = file.outline.shift count) :
    rule.findings moved = (rule.findings file).map (Finding.shift count) := by
  simp only [findings, comments, outlines, List.filterMap_map, List.map_filterMap,
    Function.comp_def, verdict_shift]

end Rule

def newlines (count : Nat) : Text := List.replicate count '\n'

theorem encode_newlines (count : Nat) (content : Text) :
    Utf8.encode (newlines count ++ content) = Utf8.encode (newlines count) ++ Utf8.encode content :=
  List.flatMap_append ..

theorem length_encode_newlines (count : Nat) : (Utf8.encode (newlines count)).length = count := by
  induction count with
  | zero => rfl
  | succ count ih =>
      have first : Utf8.encode (newlines (count + 1)) =
          Utf8.encodeChar '\n' ++ Utf8.encode (newlines count) := rfl
      rw [first, List.length_append, ih, Nat.add_comm]
      rfl

def Parsing.shift (count : Nat) (parsing : Parsing) : Parsing :=
  { parsing with tree := parsing.tree.shift count }

/-- The bytes in front are as many as the newlines, so that the tree stands to the longer source as
it stood to the shorter one. -/
theorem ofTree_shift (count serial : Nat) (path : Text) (language : Language) (content : Text)
    (tree : SyntaxTree) :
    let file := ParsedFile.ofTree serial path language content tree
    let moved := ParsedFile.ofTree serial path language (newlines count ++ content)
      (tree.shift count)
    moved.comments = file.comments.map (Comment.shift count) ∧
      moved.outline = file.outline.shift count := by
  have front := length_encode_newlines count
  have comments := SyntaxTree.commentsAll_shift language.grammar (Utf8.encode (newlines count))
    (Utf8.encode content) [] tree.children
  have outlines := SyntaxTree.outlinesAll_shift language.grammar (Utf8.encode (newlines count))
    (Utf8.encode content) tree.children
  rw [front, SyntaxTree.shiftAll_eq] at comments outlines
  simp only [ParsedFile.ofTree, Grammar.lower_eq, encode_newlines, SyntaxTree.children_shift]
  refine ⟨comments, ?_⟩
  rw [outlines, Outline.shift, SyntaxTree.fileConstruct, SyntaxTree.root_shift]
  rfl

def Report.shift (count : Nat) (report : Report) : Report :=
  { report with findings := report.findings.map (Finding.shift count) }

theorem report_shift (rule : Rule) (path content : Text) (language : Option Text)
    (parsing : Option Parsing) (count : Nat) :
    (Submission.text path (newlines count ++ content) language
        (parsing.map (·.shift count))).report rule =
      ((Submission.text path content language parsing).report rule).shift count := by
  simp only [Submission.report]
  cases language.or ((Language.detect? (Path.ofText path)).map Language.name) with
  | none => rfl
  | some language =>
      simp only [Source.findings, Except.bind, Source.parse]
      cases Language.ofName? language with
      | none => rfl
      | some known =>
          cases parsing with
          | none => rfl
          | some parsing =>
              obtain ⟨comments, outline⟩ :=
                ofTree_shift count 0 path known content parsing.tree
              simp only [Option.map_some, Except.map, Report.ofOutcome, Report.shift, Parsing.shift,
                rule.findings_shift count _ _ comments outline]

def Json.raiseLine (count : Nat) : Text × Json → Text × Json
  | (name, .int n) =>
      (name, .int (if name = "line".toList ∨ name = "end_line".toList then n + count else n))
  | member => member

def Json.raiseLines (count : Nat) : Json → Json
  | .obj members => .obj (members.map (raiseLine count))
  | value => value

theorem Json.raiseLine_str (count : Nat) (name t : Text) :
    raiseLine count (name, .str t) = (name, .str t) := rfl

theorem Json.raiseLine_int (count : Nat) (name : Text) (n : Int) :
    raiseLine count (name, .int n) =
      (name, .int (if name = "line".toList ∨ name = "end_line".toList then n + count else n)) :=
  rfl

theorem Json.raiseLine_obj (count : Nat) (name : Text) (members : Entries Json) :
    raiseLine count (name, .obj members) = (name, .obj members) := rfl

theorem toJson_shift (count : Nat) (finding : Finding) :
    (finding.shift count).toJson = finding.toJson.raiseLines count := by
  have column : ¬ ("column".toList = "line".toList ∨ "column".toList = "end_line".toList) := by
    decide
  have endColumn : ¬ ("end_column".toList = "line".toList ∨
      "end_column".toList = "end_line".toList) := by
    decide
  rw [Finding.toJson, Finding.toJson, Json.raiseLines]
  simp only [List.map_cons, List.map_nil, Json.raiseLine_str, Json.raiseLine_obj,
    Json.raiseLine_int, if_neg column, if_neg endColumn, true_or, or_true, if_true]
  rfl

/-- A source with newlines put in front, and its tree moved along, is reported as before, with its
findings further down. Nothing else about a finding changes, and whatever was linted before makes no
difference to either. -/
theorem lint_shifted [CharacterNames] (settings : Settings) (fresh : Linter)
    (created : (Linter.create settings).1 = .ok fresh) (earlier others : List Submission)
    (path content : Text) (language : Option Text) (parsing : Option Parsing) (count : Nat) :
    let report := ((fresh.lintAll earlier).2.lintSource path content language parsing).report
    let moved := ((fresh.lintAll others).2.lintSource path (newlines count ++ content) language
      (parsing.map (·.shift count))).report
    moved = report.shift count ∧
      moved.findings.map Finding.toJson =
        (report.findings.map Finding.toJson).map (Json.raiseLines count) := by
  intro report moved
  have faithful := Linter.create_faithful settings fresh created
  have alone : ∀ submissions submission, ((fresh.lintAll submissions).2.lint submission).report =
      submission.report fresh.rule := by
    intro submissions submission
    obtain ⟨_, rule, kept⟩ := fresh.lintAll_steps faithful submissions
    rw [← rule]
    exact ((fresh.lintAll submissions).2.lint_steps kept submission).reported
  have before : report = (Submission.text path content language parsing).report fresh.rule :=
    alone earlier (.text path content language parsing)
  have after : moved = (Submission.text path (newlines count ++ content) language
      (parsing.map (Parsing.shift count))).report fresh.rule :=
    alone others (.text path (newlines count ++ content) language
      (parsing.map (Parsing.shift count)))
  have same : moved = report.shift count := by
    rw [before, after]
    exact report_shift fresh.rule path content language parsing count
  refine ⟨same, ?_⟩
  simp only [same, Report.shift, List.map_map, Function.comp_def, toJson_shift]

theorem lint_shifted_two_lines :
    let _ : CharacterNames := .none
    let remark : SyntaxTree := .node ⟨"comment", none, true, false, 0, 8, ⟨0, 0⟩, ⟨0, 8⟩⟩ []
    let statement : SyntaxTree :=
      .node ⟨"return_statement", none, true, false, 9, 15, ⟨1, 0⟩, ⟨1, 6⟩⟩ []
    let root : SyntaxTree :=
      .node ⟨"module", none, true, false, 0, 15, ⟨0, 0⟩, ⟨1, 6⟩⟩ [remark, statement]
    let parsing : Option Parsing := some ⟨root, false⟩
    let fresh : Linter :=
      ⟨⟨{}, {}, [], []⟩, .empty ⟨200, by decide⟩ ⟨300, by decide⟩, 0⟩
    let report := (fresh.lintSource "a.py" "# return\nreturn" none parsing).report
    (Linter.create {}).1 = .ok fresh ∧
      report.findings.map (·.span.startLine) = [1] ∧
      (fresh.lintSource "a.py" (newlines 2 ++ "# return\nreturn".toList) none
        (parsing.map (·.shift 2))).report = report.shift 2 := by
  intro _ remark statement root parsing fresh report
  have created : (Linter.create {}).1 = .ok fresh := rfl
  have found : report.findings.map (·.span.startLine) = [1] := by decide +kernel
  obtain ⟨moved, _⟩ := lint_shifted {} fresh created [] [] "a.py" "# return\nreturn" none parsing 2
  exact ⟨created, found, moved⟩

end Restatement
