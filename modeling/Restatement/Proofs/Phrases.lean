import Restatement.Gloss
import Restatement.Proofs.Respelling

/-!
How a name or a literal is spelled does not show in the normal forms of the glosses: in every phrase
a gap parts it from the words next to it.
-/

namespace Restatement

namespace Text

def endsInGap (t : Text) : Bool := t.getLast?.any isGap

def startsInGap (t : Text) : Bool := t.head?.any isGap

theorem endsInGap_spaced (t : Text) : endsInGap (t ++ " ".toList) = true := by
  have last : (t ++ " ".toList).getLast? = some ' ' := List.getLast?_concat
  rw [endsInGap, last]
  rfl

theorem plainWords_of_end (first second : Text) (ends : endsInGap first = true) :
    plainWords (first ++ second) = plainWords first ++ plainWords second := by
  obtain ⟨c, last, gap⟩ : ∃ c, first.getLast? = some c ∧ isGap c = true := by
    simpa [endsInGap, Option.any_eq_true] using ends
  obtain ⟨start, rfl⟩ := List.getLast?_eq_some_iff.mp last
  -- the gap adds no word to the side it stands on
  have parted := fun rest => plainWords_parted start [c] rest (List.cons_ne_nil c [])
    (by simpa using gap)
  rw [parted second, ← List.append_nil (start ++ [c]), parted []]
  simp

theorem plainWords_of_start (first second : Text) (starts : startsInGap second = true) :
    plainWords (first ++ second) = plainWords first ++ plainWords second := by
  obtain ⟨c, head, gap⟩ : ∃ c, second.head? = some c ∧ isGap c = true := by
    simpa [startsInGap, Option.any_eq_true] using starts
  obtain ⟨rest, rfl⟩ := List.head?_eq_some_iff.mp head
  have parted := fun start => plainWords_parted start [c] rest (List.cons_ne_nil c [])
    (by simpa using gap)
  rw [← List.singleton_append, ← List.append_assoc, parted first, ← List.nil_append [c], parted []]
  simp

namespace SameForm

variable {name other literal value : Text}

theorem refl (t : Text) : SameForm t t := rfl

theorem after {lead : Text} (same : SameForm name other) (ends : endsInGap lead = true) :
    SameForm (lead ++ name) (lead ++ other) := by
  rw [SameForm, normalize_eq_iff] at same ⊢
  rw [plainWords_of_end lead name ends, plainWords_of_end lead other ends, same]

theorem before {tail : Text} (same : SameForm name other) (starts : startsInGap tail = true) :
    SameForm (name ++ tail) (other ++ tail) := by
  rw [SameForm, normalize_eq_iff] at same ⊢
  rw [plainWords_of_start name tail starts, plainWords_of_start other tail starts, same]

theorem joined {middle : Text} (same : SameForm name other) (equal : SameForm literal value)
    (starts : startsInGap middle = true) (ends : endsInGap middle = true) :
    SameForm (name ++ middle ++ literal) (other ++ middle ++ value) := by
  have tail : SameForm (middle ++ literal) (middle ++ value) := equal.after ends
  have leads : ∀ t, startsInGap (middle ++ t) = true := by
    intro t
    cases middle with
    | nil => cases starts
    | cons c rest => exact starts
  rw [SameForm, normalize_eq_iff] at same tail ⊢
  rw [List.append_assoc, List.append_assoc, plainWords_of_start name _ (leads literal),
    plainWords_of_start other _ (leads value), same, tail]

end SameForm

end Text

open Text (SameForm)

theorem SameForms.refl (phrases : List Text) : SameForms phrases phrases :=
  List.forall₂_same.mpr fun phrase _ => .refl phrase

namespace Gloss

variable {name other literal value : Text} {named renamed written rewritten : Option Text}

theorem filled_alike (general : Text) (names : Option.Rel SameForm named renamed) :
    SameForm (named.getD general) (renamed.getD general) := by
  cases names with
  | some same => exact same
  | none => exact .refl general

-- Phrase by phrase, the name stands alone, after a lead, before a tail, or next to a literal. Leads
-- and tails are fixed texts, so that the gap beside the name is found by evaluation.

theorem update_alike (decrement : Bool) (same : SameForm name other) :
    SameForms (update name decrement) (update other decrement) := by
  simp only [update, SameForms, List.forall₂_cons, List.forall₂_nil_left_iff, and_true]
  cases decrement <;>
    exact ⟨same.after rfl, .refl _, same.before rfl, same.after rfl, same.after rfl,
      same.after rfl, same.after rfl⟩

theorem returning_alike (names : Option.Rel SameForm named renamed)
    (literals : Option.Rel SameForm written rewritten) :
    SameForms (returning named written) (returning renamed rewritten) := by
  cases names with
  | some same =>
      apply List.rel_append (SameForms.refl _)
      exact .cons (same.after rfl) (.cons (same.after rfl) (.cons (same.after rfl) .nil))
  | none =>
      cases literals with
      | some equal => exact List.rel_append (SameForms.refl _) (.cons (equal.after rfl) .nil)
      | none => exact .refl _

theorem call_alike (same : SameForm name other) : SameForms (call name) (call other) := by
  simp only [call, SameForms, List.forall₂_cons, List.forall₂_nil_left_iff, and_true]
  exact ⟨same.after rfl, same, same.after rfl, same.after rfl, same.after rfl, same.after rfl,
    same.after rfl⟩

theorem initialValue_alike (same : SameForm name other) (equal : SameForm literal value) :
    SameForms (initialValue name literal) (initialValue other value) := by
  simp only [initialValue, SameForms, List.forall₂_cons, List.forall₂_nil_left_iff, and_true]
  exact ⟨(same.after rfl).joined equal rfl rfl, same.joined equal rfl rfl,
    same.joined equal rfl rfl⟩

theorem declared_alike (keyword : Text) (same : SameForm name other) :
    SameForms (declared name keyword) (declared other keyword) := by
  simp only [declared, SameForms, List.forall₂_cons, List.forall₂_nil_left_iff, and_true]
  exact ⟨same.after rfl, same.after (Text.endsInGap_spaced keyword), same.after rfl,
    same.after rfl, same.after rfl, same.after rfl, same.after rfl, same.after rfl, same.after rfl⟩

theorem declaration_alike (keyword : Text) (names : Option.Rel SameForm named renamed)
    (literals : Option.Rel SameForm written rewritten) :
    SameForms (declaration named written keyword) (declaration renamed rewritten keyword) := by
  cases names with
  | none => exact .refl _
  | some same =>
      have general := declared_alike keyword same
      cases literals with
      | none => exact List.rel_append general (SameForms.refl _)
      | some equal =>
          have valued := List.rel_append general (initialValue_alike same equal)
          exact List.rel_append valued (SameForms.refl _)

theorem assignment_alike (same : SameForm name other)
    (literals : Option.Rel SameForm written rewritten) :
    SameForms (assignment name written) (assignment other rewritten) := by
  have general : SameForms (assignment name none) (assignment other none) := by
    simp only [assignment, SameForms, List.forall₂_cons, List.forall₂_nil_left_iff, and_true]
    exact ⟨same.after rfl, same.after rfl, same.before rfl, same.after rfl, same.after rfl,
      same.after rfl, same.after rfl⟩
  cases literals with
  | none => exact general
  | some equal =>
      apply List.rel_append general
      exact .cons ((same.after rfl).joined equal rfl rfl) (.cons (same.joined equal rfl rfl) .nil)

theorem definition_alike (noun : Text) (same : SameForm name other) :
    SameForms (definition noun name) (definition noun other) := by
  simp only [definition, SameForms, List.forall₂_cons, List.forall₂_nil_left_iff, and_true]
  exact ⟨same.after (Text.endsInGap_spaced noun), same.after rfl, .refl _, .refl _,
    same.joined (.refl noun) rfl rfl⟩

end Gloss

/-- Constructs of one kind and operator that differ at most in how the first name and the first
literal are spelled. An empty name counts as none. -/
structure Construct.SpelledAlike (first second : Construct) : Prop where
  kind : first.kind = second.kind
  operator : first.operator = second.operator
  name : (first.name?.getD [] = [] ∧ second.name?.getD [] = []) ∨
    ∃ name other, first.name? = some name ∧ second.name? = some other ∧
      name ≠ [] ∧ other ≠ [] ∧ Text.normalize name = Text.normalize other
  literal : (first.literal? = none ∧ second.literal? = none) ∨
    ∃ literal value, first.literal? = some literal ∧ second.literal? = some value ∧
      Text.normalize literal = Text.normalize value

namespace Construct.SpelledAlike

variable {first second : Construct}

theorem given (alike : first.SpelledAlike second) :
    Option.Rel SameForm (Gloss.given? first.name?) (Gloss.given? second.name?) := by
  have missing : ∀ name : Option Text, name.getD [] = [] → Gloss.given? name = none := by
    intro name empty
    match name, empty with
    | none, _ => rfl
    | some [], _ => rfl
  have present : ∀ name : Text, name ≠ [] → Gloss.given? (some name) = some name := by
    intro name some
    obtain ⟨c, rest, rfl⟩ := List.exists_cons_of_ne_nil some
    rfl
  rcases alike.name with ⟨left, right⟩ | ⟨name, other, left, right, some, others, same⟩
  · rw [missing _ left, missing _ right]
    exact .none
  · rw [left, right, present name some, present other others]
    exact .some same

theorem written (alike : first.SpelledAlike second) :
    Option.Rel SameForm first.literal? second.literal? := by
  rcases alike.literal with ⟨left, right⟩ | ⟨literal, value, left, right, same⟩
  · rw [left, right]
    exact .none
  · rw [left, right]
    exact .some same

theorem glosses (alike : first.SpelledAlike second) :
    SameForms first.glosses second.glosses := by
  have names := alike.given
  have literals := alike.written
  simp only [Construct.glosses, alike.kind, alike.operator]
  cases second.kind with
  | update => exact Gloss.update_alike _ (Gloss.filled_alike _ names)
  | «return» => exact Gloss.returning_alike names literals
  | call => exact Gloss.call_alike (Gloss.filled_alike _ names)
  | declaration => exact Gloss.declaration_alike _ names literals
  | assignment => exact Gloss.assignment_alike (Gloss.filled_alike _ names) literals
  | functionDef => exact Gloss.definition_alike _ (Gloss.filled_alike _ names)
  | classDef => exact Gloss.definition_alike _ (Gloss.filled_alike _ names)
  | loop | conditional | switch | «try» | throw | «break» | «continue» | empty | unknown =>
      exact .refl _

end Construct.SpelledAlike

/-- Constructs that are spelled alike have glosses with the same normal forms, one by one, so that a
comment restates both of them or neither. -/
theorem glosses_spelled_alike (first second : Construct) (alike : first.SpelledAlike second) :
    first.glosses.map Text.normalize = second.glosses.map Text.normalize ∧
      ∀ (thresholds : Thresholds) (sensitivity : Sensitivity) (comment : Text),
        isObviousAt? thresholds sensitivity.name comment first.glosses =
          isObviousAt? thresholds sensitivity.name comment second.glosses := by
  have same := alike.glosses
  refine ⟨same.normalize_eq, ?_⟩
  intro thresholds sensitivity comment
  rw [isObviousAt_name, isObviousAt_name,
    isObvious_of_sameForms thresholds sensitivity comment comment _ _ (.refl comment) same]

theorem glosses_spelled_alike_constant :
    let first : Construct :=
      { kind := .declaration, nodeType := "lexical_declaration", operator := some "const",
        names := ["MAX_ΣIZE"], literals := ["0xFF"] }
    let second : Construct :=
      { kind := .declaration, nodeType := "assignment", operator := some "const",
        names := ["max$$ize", "unused"], literals := ["0XfF "] }
    first.SpelledAlike second ∧ first.glosses ≠ second.glosses ∧
      first.glosses.map Text.normalize = second.glosses.map Text.normalize ∧
      isObviousAt? {} Sensitivity.low.name "set MAX-ize to 0xff" first.glosses = some true ∧
      isObviousAt? {} Sensitivity.low.name "set MAX-ize to 0xff" second.glosses = some true := by
  intro first second
  have alike : first.SpelledAlike second :=
    ⟨rfl, rfl, .inr ⟨_, _, rfl, rfl, by decide, by decide, by decide +kernel⟩,
      .inr ⟨_, _, rfl, rfl, by decide +kernel⟩⟩
  obtain ⟨forms, verdicts⟩ := glosses_spelled_alike first second alike
  have found : isObviousAt? {} Sensitivity.low.name "set MAX-ize to 0xff" first.glosses =
      some true := by
    decide +kernel
  have differ : first.glosses ≠ second.glosses := by decide +kernel
  exact ⟨alike, differ, forms, found,
    (verdicts {} .low "set MAX-ize to 0xff").symm.trans found⟩

end Restatement
