import Mathlib.Data.List.Forall2
import Restatement.Proofs.PreOrder
import Restatement.Proofs.Verdict

/-!
The verdict on a comment depends on the comment and on the constructs that start on a few lines
around it. Two runs are compared through a relation between the constructs that they meet.
-/

namespace Restatement

section Pairing

variable {related : Construct → Construct → Prop}

theorem head_related (first second : List Construct) (paired : List.Forall₂ related first second) :
    Option.Rel related first.head? second.head? := by
  cases paired with
  | nil => exact .none
  | cons head _ => exact .some head

theorem find_related (test other : Construct → Bool)
    (agree : ∀ a b, related a b → test a = other b) (first second : List Construct)
    (paired : List.Forall₂ related first second) :
    Option.Rel related (first.find? test) (second.find? other) := by
  induction paired with
  | nil => exact .none
  | @cons a b _ _ head _ ih =>
      rw [List.find?_cons, List.find?_cons, agree a b head]
      cases other b with
      | true => exact .some head
      | false => exact ih

theorem or_related (first second third fourth : Option Construct)
    (left : Option.Rel related first second) (right : Option.Rel related third fourth) :
    Option.Rel related (first.or third) (second.or fourth) := by
  cases left with
  | some head => exact .some head
  | none => exact right

theorem findSome_related (choice other : Nat → Option Construct) (places : List Nat)
    (each : ∀ place ∈ places, Option.Rel related (choice place) (other place)) :
    Option.Rel related (places.findSome? choice) (places.findSome? other) := by
  induction places with
  | nil => exact .none
  | cons place rest ih =>
      have here := each place List.mem_cons_self
      have there := ih fun later member => each later (List.mem_cons_of_mem place member)
      rw [List.findSome?_cons, List.findSome?_cons]
      revert here
      cases choice place <;> cases other place <;> intro here
      · exact there
      · cases here
      · cases here
      · exact here

theorem rel_weaken (weaker : Construct → Construct → Prop)
    (implied : ∀ a b, related a b → weaker a b) (first second : Option Construct)
    (pair : Option.Rel related first second) : Option.Rel weaker first second := by
  cases pair with
  | none => exact .none
  | some head => exact .some (implied _ _ head)

end Pairing

def Construct.startsPast (offset : Int) (construct : Construct) : Bool :=
  match construct.span with
  | none => false
  | some span => offset < span.startOffset

/-- On the lines that are looked at for the one comment and for the other, the same number of
constructs start, and they are related one by one. -/
structure Surrounded (related : Construct → Construct → Prop) (first second : Comment)
    (here there : LineIndex) : Prop where
  trailing : first.trailing = second.trailing
  below : ∀ distance : Nat, distance ≤ lookahead →
    List.Forall₂ related (here.atLine (first.span.endLine + 1 + distance))
      (there.atLine (second.span.endLine + 1 + distance))
  beside : first.trailing = true →
    List.Forall₂ related (here.atLine first.span.startLine) (there.atLine second.span.startLine)

/-- Related surroundings have related constructs picked from them, or none in both. -/
theorem adjacent_related (related : Construct → Construct → Prop) (first second : Comment)
    (here there : LineIndex) (surrounded : Surrounded related first second here there)
    (kinds : ∀ a b, related a b → a.kind = b.kind)
    (places : ∀ a b, related a b →
      a.startsPast first.span.endOffset = b.startsPast second.span.endOffset) :
    Option.Rel related (adjacent? first here) (adjacent? second there) := by
  have next : List.Forall₂ related (here.atLine (first.span.endLine + 1))
      (there.atLine (second.span.endLine + 1)) := by
    simpa using surrounded.below 0 (Nat.zero_le _)
  have own : List.Forall₂ related
      (if first.trailing then here.atLine first.span.startLine else [])
      (if second.trailing then there.atLine second.span.startLine else []) := by
    rw [← surrounded.trailing]
    cases trails : first.trailing with
    | true => exact surrounded.beside trails
    | false => exact .nil
  apply or_related
  · apply or_related
    · apply or_related
      · apply find_related _ _ _ _ _ next
        intro a b pair
        rw [kinds a b pair]
      · exact head_related _ _ next
    · apply or_related
      · exact find_related _ _ places _ _ own
      · exact head_related _ _ own
  · apply findSome_related
    intro distance member
    have near : distance + 1 ≤ lookahead := List.mem_range.mp member
    have line : ∀ start : Int,
        start + 1 + ((distance + 1 : Nat) : Int) = start + 1 + 1 + distance := by
      intro start
      omega
    have below := surrounded.below (distance + 1) near
    rw [line, line] at below
    exact head_related _ _ below

/-- Constructs of which the same is said. -/
structure Construct.Alike (first second : Construct) : Prop where
  kind : first.kind = second.kind
  names : first.names = second.names
  literals : first.literals = second.literals
  operator : first.operator = second.operator

theorem Construct.Alike.glosses {first second : Construct} (alike : first.Alike second) :
    first.glosses = second.glosses := by
  simp only [Construct.glosses, Construct.name?, Construct.literal?, alike.kind, alike.names,
    alike.literals, alike.operator]

theorem firstLine_of_kind_body (first second : Comment) (kinds : first.kind = second.kind)
    (bodies : first.body = second.body) : first.firstLine = second.firstLine := by
  simp only [Comment.firstLine, kinds, bodies]

namespace Rule

theorem verdict_span (rule : Rule) (index : LineIndex) (comment : Comment) (finding : Finding)
    (found : rule.verdict? index comment = some finding) : finding.span = comment.span := by
  rw [verdict?] at found
  split at found
  · rw [judge_eq] at found
    split at found
    · cases found
    · split at found
      · cases found
        rfl
      · cases found
  · cases found

/-- Two comments that say the same next to constructs of which the same is said get the same
verdict, each at its own place. -/
theorem verdict_of_alike (rule : Rule) (first second : Comment) (here there : LineIndex)
    (kinds : first.kind = second.kind) (bodies : first.body = second.body)
    (trailing : first.trailing = second.trailing)
    (next : Option.Rel Construct.Alike (adjacent? first here) (adjacent? second there)) :
    rule.verdict? there second =
      (rule.verdict? here first).map fun finding => { finding with span := second.span } := by
  have classes := classify_of_kind_body first second kinds bodies
  have lines := firstLine_of_kind_body first second kinds bodies
  have examined : rule.examines (second, second.classify) =
      rule.examines (first, first.classify) := by
    simp only [examines, checksPlace, classes, lines, trailing]
  simp only [verdict?, examined, judge_eq]
  cases rule.examines (first, first.classify) with
  | false => rfl
  | true =>
      revert next
      cases adjacent? first here <;> cases adjacent? second there <;> intro next
      · rfl
      · cases next
      · cases next
      · rename_i a b
        obtain ⟨alike⟩ := next
        have restates : rule.isRestatement second b = rule.isRestatement first a := by
          simp only [isRestatement, lines, alike.glosses]
        simp only [if_true, restates]
        cases rule.isRestatement first a with
        | false => rfl
        | true =>
            simp only [if_true, Option.map_some, finding, severity, classes, lines, alike.kind]

theorem findings_append (rule : Rule) (file : ParsedFile) (before after : List Comment)
    (comment : Comment) (split : file.comments = before ++ comment :: after) :
    rule.findings file =
      rule.findings { file with comments := before } ++
        (rule.verdict? (.ofOutline file.outline) comment).toList ++
          rule.findings { file with comments := after } := by
  simp only [findings, split, List.filterMap_append, List.filterMap_cons, List.append_assoc]
  cases rule.verdict? (.ofOutline file.outline) comment <;> rfl

end Rule

def Comment.watches (comment : Comment) (line : Int) : Prop :=
  (comment.span.endLine + 1 ≤ line ∧ line ≤ comment.span.endLine + 4) ∨
    (comment.trailing = true ∧ line = comment.span.startLine)

/-- Constructs of which the same is said and that start at the same offset. -/
structure Construct.Interchangeable (first second : Construct) : Prop
    extends Construct.Alike first second where
  offset : first.span.map (·.startOffset) = second.span.map (·.startOffset)

theorem Construct.Interchangeable.startsPast {first second : Construct}
    (same : first.Interchangeable second) (offset : Int) :
    first.startsPast offset = second.startsPast offset := by
  have places := same.offset
  simp only [Construct.startsPast]
  revert places
  cases first.span <;> cases second.span <;> intro places
  · rfl
  · cases places
  · cases places
  · simp only [Option.map_some, Option.some.injEq] at places
    simp only [places]

theorem surrounded_of_matching (comment : Comment) (first second : Outline)
    (matching : ∀ line, comment.watches line →
      List.Forall₂ Construct.Interchangeable (first.startingOn line) (second.startingOn line)) :
    Surrounded Construct.Interchangeable comment comment (.ofOutline first)
      (.ofOutline second) := by
  simp only [← LineIndex.atLine_ofOutline] at matching
  refine ⟨rfl, ?_, ?_⟩
  · intro distance near
    have within : distance ≤ 3 := near
    apply matching
    left
    omega
  · intro trails
    exact matching _ (.inr ⟨trails, rfl⟩)

theorem Rule.verdict_local (rule : Rule) (comment : Comment) (first second : Outline)
    (matching : ∀ line, comment.watches line →
      List.Forall₂ Construct.Interchangeable (first.startingOn line) (second.startingOn line)) :
    rule.verdict? (.ofOutline second) comment = rule.verdict? (.ofOutline first) comment := by
  have next : Option.Rel Construct.Interchangeable (adjacent? comment (.ofOutline first))
      (adjacent? comment (.ofOutline second)) :=
    adjacent_related _ comment comment _ _ (surrounded_of_matching comment first second matching)
      (fun _ _ same => same.kind) (fun _ _ same => same.startsPast _)
  have alike : Option.Rel Construct.Alike (adjacent? comment (.ofOutline first))
      (adjacent? comment (.ofOutline second)) :=
    rel_weaken _ (fun _ _ same => same.toAlike) _ _ next
  rw [rule.verdict_of_alike comment comment _ _ rfl rfl rfl alike]
  cases found : rule.verdict? (.ofOutline first) comment with
  | none => rfl
  | some finding =>
      have place := rule.verdict_span _ comment finding found
      rw [Option.map_some, ← place]

/-- Two files with a comment in common, on whose watched lines interchangeable constructs start:
what is found for the comment is the same in both, whatever else stands in them, and it takes its
place between what is found for the comments before and after it. -/
theorem finding_local [CharacterNames] (rule : Rule) (patternCapacity remarkCapacity : Capacity)
    (history other : List Request) (comment : Comment) (first second : ParsedFile)
    (matching : ∀ line, comment.watches line →
      List.Forall₂ Construct.Interchangeable (first.outline.startingOn line)
        (second.outline.startingOn line)) :
    let here := fun file =>
      (rule.check ((Caches.empty patternCapacity remarkCapacity).serveAll history) file).value
    let there := fun file =>
      (rule.check ((Caches.empty patternCapacity remarkCapacity).serveAll other) file).value
    ∃ own : Option Finding,
      (∀ before after, first.comments = before ++ comment :: after →
        here first = here { first with comments := before } ++ own.toList ++
          here { first with comments := after }) ∧
      (∀ before after, second.comments = before ++ comment :: after →
        there second = there { second with comments := before } ++ own.toList ++
          there { second with comments := after }) := by
  intro here there
  have checked : ∀ requests file, (rule.check
      ((Caches.empty patternCapacity remarkCapacity).serveAll requests) file).value =
        rule.findings file := by
    intro requests file
    have initial := Caches.empty_faithful patternCapacity remarkCapacity
    exact (rule.check_gives _ (Caches.serveAll_faithful _ initial requests) file).value
  simp only [here, there, checked]
  refine ⟨rule.verdict? (.ofOutline first.outline) comment, ?_, ?_⟩
  · intro before after split
    exact rule.findings_append first before after comment split
  · intro before after split
    rw [← rule.verdict_local comment first.outline second.outline matching]
    exact rule.findings_append second before after comment split

theorem finding_local_other_nesting :
    let _ : CharacterNames := .none
    let comment : Comment := ⟨⟨1, 0, 1, 8, 0, 8⟩, .line, " return".toList, false⟩
    let later : Comment := ⟨⟨7, 0, 7, 6, 40, 46⟩, .line, " loop".toList, false⟩
    let top : Construct := { kind := .unknown, nodeType := "module".toList }
    let bare : Construct :=
      { kind := .return, nodeType := "return_statement".toList,
        span := some ⟨2, 0, 2, 6, 9, 15⟩ }
    let long : Construct :=
      { kind := .return, nodeType := "return".toList, span := some ⟨2, 0, 4, 1, 9, 30⟩ }
    let around : Construct :=
      { kind := .functionDef, nodeType := "lambda".toList, span := some ⟨1, 9, 4, 1, 9, 31⟩ }
    let first : ParsedFile :=
      ⟨0, "a.py".toList, .python, [], .node top [.node bare []], [comment], []⟩
    let second : ParsedFile :=
      ⟨1, "b.py".toList, .python, [], .node top [.node around [.node long []]],
        [comment, later], []⟩
    let rule : Rule := ⟨{}, {}, [], []⟩
    let fresh : Caches := .empty ⟨1, by decide⟩ ⟨1, by decide⟩
    let used : Caches := fresh.serveAll [.check rule first]
    (∀ line, comment.watches line →
      List.Forall₂ Construct.Interchangeable (first.outline.startingOn line)
        (second.outline.startingOn line)) ∧
      (rule.check fresh first).value.length = 1 ∧
      ∃ own : Option Finding,
        (rule.check fresh first).value =
          (rule.check fresh { first with comments := [] }).value ++ own.toList ++
            (rule.check fresh { first with comments := [] }).value ∧
        (rule.check used second).value =
          (rule.check used { second with comments := [] }).value ++ own.toList ++
            (rule.check used { second with comments := [later] }).value := by
  intro _ comment later top bare long around first second rule fresh used
  have matching : ∀ line, comment.watches line →
      List.Forall₂ Construct.Interchangeable (first.outline.startingOn line)
        (second.outline.startingOn line) := by
    intro line watched
    have near : line = 2 ∨ line = 3 ∨ line = 4 ∨ line = 5 := by
      rcases watched with ⟨low, high⟩ | ⟨trails, _⟩
      · have low : (2 : Int) ≤ line := low
        have high : line ≤ (5 : Int) := high
        omega
      · cases trails
    rcases near with rfl | rfl | rfl | rfl
    · exact .cons ⟨⟨rfl, rfl, rfl, rfl⟩, rfl⟩ .nil
    · exact .nil
    · exact .nil
    · exact .nil
  have found : (rule.check fresh first).value.length = 1 := by decide +kernel
  obtain ⟨own, one, two⟩ := finding_local rule ⟨1, by decide⟩ ⟨1, by decide⟩ []
    [.check rule first] comment first second matching
  exact ⟨matching, found, own, one [] [] rfl, two [] [later] rfl⟩

end Restatement
