import Restatement.Proofs.DocumentOrder
import Restatement.Proofs.PreOrder

/-!
What a construct of each kind carries. The grammars of the languages are consistent tables, and
under a consistent grammar every construct that a syntax tree gives is well formed, however the tree
is built and whatever is missing in it.
-/

namespace Restatement

/-- The names, literals and operator that a construct of the kind can have. Only returns,
declarations and assignments are about literals, and a return is about a name or a literal, not
both. -/
def ConstructKind.Carries (kind : ConstructKind) (names literals : List Text)
    (operator : Option Text) : Prop :=
  match kind with
  | .update => literals = [] ∧ (operator = some "++".toList ∨ operator = some "--".toList)
  | .loop =>
      names = [] ∧ literals = [] ∧
        (operator = some "for".toList ∨ operator = some "while".toList)
  | .declaration => operator.isSome
  | .assignment => True
  | .return => (names = [] ∨ literals = []) ∧ operator = none
  | .call | .functionDef | .classDef | .unknown => literals = [] ∧ operator = none
  | .conditional | .switch | .try | .throw | .break | .continue | .empty =>
      names = [] ∧ literals = [] ∧ operator = none

structure Captured.WellFormed (captured : Captured) : Prop where
  oneName : captured.names.length ≤ 1
  named : ∀ name ∈ captured.names, name ≠ []
  oneLiteral : captured.literals.length ≤ 1
  carries : captured.kind.Carries captured.names captured.literals captured.operator

def Construct.captured (construct : Construct) : Captured :=
  ⟨construct.kind, construct.names, construct.literals, construct.operator⟩

/-- A construct with a place in the source, at most one name, which is not empty, at most one
literal, and what else belongs to its kind. -/
structure Construct.WellFormed (construct : Construct) : Prop where
  placed : construct.span.isSome
  captured : construct.captured.WellFormed

/-- Every type of loop has a keyword, and no identifier is a literal. -/
structure Grammar.Consistent (grammar : Grammar) : Prop where
  loops : ∀ type, grammar.kindOf type = .loop →
    grammar.loopKeywords.lookup type = some "for".toList ∨
      grammar.loopKeywords.lookup type = some "while".toList
  apart : ∀ type ∈ identifierTypes, grammar.isLiteral type = false

theorem Grammar.kindOf_mem (grammar : Grammar) (type : Text) (kind : ConstructKind)
    (known : kind ≠ .unknown) (found : grammar.kindOf type = kind) :
    (type, kind) ∈ grammar.kinds := by
  rw [kindOf] at found
  cases entry : grammar.kinds.lookup type with
  | none =>
      rw [entry] at found
      exact absurd found.symm known
  | some other =>
      rw [entry, Option.getD_some] at found
      obtain ⟨front, back, split, _⟩ := List.lookup_eq_some_iff.mp entry
      rw [split, ← found]
      exact List.mem_append_right front List.mem_cons_self

theorem Language.grammar_consistent (language : Language) : language.grammar.Consistent where
  loops := by
    intro type found
    have entry := language.grammar.kindOf_mem type .loop (by decide) found
    have table : ∀ entry ∈ language.grammar.kinds, entry.2 = .loop →
        language.grammar.loopKeywords.lookup entry.1 = some "for".toList ∨
          language.grammar.loopKeywords.lookup entry.1 = some "while".toList := by
      cases language <;> decide +kernel
    exact table (type, .loop) entry rfl
  apart := by cases language <;> decide +kernel

theorem Captured.of_wellFormed (kind : ConstructKind) (name literal operator : Option Text)
    (carries : kind.Carries (Captured.of kind name literal operator).names literal.toList
      operator) :
    (Captured.of kind name literal operator).WellFormed where
  oneName := by
    have bound : name.toList.length ≤ 1 := by cases name <;> simp
    exact Nat.le_trans (List.length_filter_le _ _) bound
  named := by
    intro given member
    simpa using (List.mem_filter.mp member).2
  oneLiteral := by
    show literal.toList.length ≤ 1
    cases literal <;> simp
  carries := carries

namespace SyntaxTree

section Capture

variable (grammar : Grammar) (source : Bytes)

theorem captureAssignment_wellFormed (tree : SyntaxTree) :
    (tree.captureAssignment grammar source).WellFormed := by
  simp only [captureAssignment]
  split
  · exact Captured.of_wellFormed _ _ _ _ ⟨rfl, .inl rfl⟩
  · split
    · exact Captured.of_wellFormed _ _ _ _ ⟨rfl, .inr rfl⟩
    · exact Captured.of_wellFormed _ _ _ _ trivial

theorem captureDeclaration_wellFormed (tree : SyntaxTree) :
    (tree.captureDeclaration grammar source).WellFormed :=
  Captured.of_wellFormed _ _ _ _ rfl

theorem captureReturn_wellFormed (consistent : grammar.Consistent) (tree : SyntaxTree) :
    (tree.captureReturn grammar source).WellFormed := by
  apply Captured.of_wellFormed
  refine ⟨?_, rfl⟩
  cases tree.namedChildren.find? fun child => !grammar.isComment child.root.type with
  | none => exact .inr rfl
  | some operand =>
      by_cases identifier : operand.root.type ∈ identifierTypes
      · have other := consistent.apart operand.root.type identifier
        right
        simp [literal?, other]
      · left
        simp [Captured.of, identifier?, identifier]

theorem captureOwn_wellFormed (consistent : grammar.Consistent) (tree : SyntaxTree) :
    (tree.captureOwn grammar source).WellFormed := by
  simp only [captureOwn]
  cases kind : grammar.kindOf tree.root.type with
  | assignment => exact captureAssignment_wellFormed grammar source tree
  | declaration => exact captureDeclaration_wellFormed grammar source tree
  | «return» => exact captureReturn_wellFormed grammar source consistent tree
  | loop =>
      exact Captured.of_wellFormed _ _ _ _ ⟨rfl, rfl, consistent.loops tree.root.type kind⟩
  | update =>
      apply Captured.of_wellFormed
      refine ⟨rfl, ?_⟩
      split
      · exact .inr rfl
      · exact .inl rfl
  | unknown | call | functionDef | classDef =>
      exact Captured.of_wellFormed _ _ _ _ ⟨rfl, rfl⟩
  | conditional | «switch» | «try» | throw | «break» | «continue» | empty =>
      exact Captured.of_wellFormed _ _ _ _ ⟨rfl, rfl, rfl⟩

mutual

/-- However many wrappers stand around a node, what is captured is captured of some node. -/
theorem capture_wellFormed (consistent : grammar.Consistent) :
    ∀ tree : SyntaxTree, (tree.capture grammar source).WellFormed
  | .node top children => by
      rw [capture]
      split
      · rename_i captured found
        obtain ⟨field, _, taken⟩ := Option.bind_eq_some_iff.mp found
        exact captureField_wellFormed consistent field children captured taken
      · exact captureOwn_wellFormed grammar source consistent (.node top children)

theorem captureField_wellFormed (consistent : grammar.Consistent) (field : Text) :
    ∀ (trees : List SyntaxTree) (captured : Captured),
      captureField? grammar source field trees = some captured → captured.WellFormed
  | [], _, found => by cases found
  | tree :: rest, captured, found => by
      rw [captureField?] at found
      split at found
      · rw [← Option.some.inj found]
        exact capture_wellFormed consistent tree
      · exact captureField_wellFormed consistent field rest captured found

end

theorem described_wellFormed (consistent : grammar.Consistent) (tree : SyntaxTree) :
    (tree.described grammar source).WellFormed where
  placed := rfl
  captured := capture_wellFormed grammar source consistent tree

end Capture

mutual

theorem outlines_described (grammar : Grammar) (source : Bytes) :
    ∀ (tree : SyntaxTree), ∀ construct ∈ Outline.preorderAll (tree.outlines grammar source),
      ∃ node : SyntaxTree, construct = node.described grammar source
  | .node top children, construct, member => by
      simp only [outlines] at member
      split at member
      · cases member
      · split at member
        · exact outlinesAll_described grammar source children construct member
        · split at member
          · cases member
          · simp only [Outline.preorderAll, Outline.preorder, List.append_nil] at member
            rcases List.mem_cons.mp member with own | below
            · exact ⟨.node top children, own⟩
            · exact outlinesAll_described grammar source children construct below

theorem outlinesAll_described (grammar : Grammar) (source : Bytes) :
    ∀ (trees : List SyntaxTree),
      ∀ construct ∈ Outline.preorderAll (outlinesAll grammar source trees),
        ∃ node : SyntaxTree, construct = node.described grammar source
  | [], _, member => by cases member
  | tree :: rest, construct, member => by
      rw [outlinesAll, Outline.preorderAll_append] at member
      rcases List.mem_append.mp member with first | later
      · exact outlines_described grammar source tree construct first
      · exact outlinesAll_described grammar source rest construct later

end

end SyntaxTree

/-- In every language every construct below the root of a file is well formed, whatever the syntax
tree is. -/
theorem constructs_wellFormed (serial : Nat) (path : Text) (language : Language) (source : Text)
    (tree : SyntaxTree) :
    ∀ construct ∈ Outline.preorderAll
        (ParsedFile.ofTree serial path language source tree).outline.children,
      construct.WellFormed := by
  rw [ParsedFile.ofTree, Grammar.lower_eq]
  intro construct member
  obtain ⟨node, rfl⟩ := SyntaxTree.outlinesAll_described language.grammar (Utf8.encode source)
    tree.children construct member
  exact node.described_wellFormed language.grammar (Utf8.encode source) language.grammar_consistent

theorem constructs_wellFormed_wrapper :
    let node := fun (type : Text) (field : Option Text) (first last : Nat) (start stop : Point) =>
      SyntaxTree.node ⟨type, field, true, false, first, last, start, stop⟩
    let tree := node "module".toList none 0 17 ⟨0, 0⟩ ⟨1, 14⟩
      [node "decorated_definition".toList none 0 17 ⟨0, 0⟩ ⟨1, 14⟩
        [node "decorator".toList none 0 2 ⟨0, 0⟩ ⟨0, 2⟩ [],
          node "function_definition".toList (some "definition".toList) 3 17 ⟨1, 0⟩ ⟨1, 14⟩
            [node "identifier".toList (some "name".toList) 7 8 ⟨1, 4⟩ ⟨1, 5⟩ []]]]
    let file := ParsedFile.ofTree 0 "a.py" .python "@a\ndef f(): pass" tree
    let construct : Construct :=
      { kind := .functionDef
        nodeType := "decorated_definition".toList
        span := some ⟨1, 0, 2, 14, 0, 17⟩
        names := ["f".toList] }
    construct ∈ Outline.preorderAll file.outline.children ∧ construct.WellFormed := by
  intro node tree file construct
  have member : construct ∈ Outline.preorderAll file.outline.children := by decide +kernel
  exact ⟨member, constructs_wellFormed 0 "a.py" .python "@a\ndef f(): pass" tree construct member⟩

end Restatement
