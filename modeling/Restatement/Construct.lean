import Restatement.Span
import Restatement.Text.Basic

/-!
Constructs of source code, and outlines: trees of constructs.
-/

namespace Restatement

/-- Kinds of constructs. An `empty` construct does nothing and can be stepped over. -/
inductive ConstructKind where
  | loop
  | conditional
  | call
  | assignment
  | declaration
  | return
  | throw
  | try
  | switch
  | break
  | continue
  | functionDef
  | classDef
  | update
  | empty
  | unknown
  deriving DecidableEq, Repr

namespace ConstructKind

def name : ConstructKind → Text
  | .loop => "loop"
  | .conditional => "conditional"
  | .call => "call"
  | .assignment => "assignment"
  | .declaration => "declaration"
  | .return => "return"
  | .throw => "throw"
  | .try => "try"
  | .switch => "switch"
  | .break => "break"
  | .continue => "continue"
  | .functionDef => "function_def"
  | .classDef => "class_def"
  | .update => "update"
  | .empty => "empty"
  | .unknown => "unknown"

def all : List ConstructKind :=
  [.loop, .conditional, .call, .assignment, .declaration, .return, .throw, .try, .switch, .break,
    .continue, .functionDef, .classDef, .update, .empty, .unknown]

def ofName? (name : Text) : Option ConstructKind := all.find? (·.name == name)

end ConstructKind

/-- A construct with what was captured of it: the names and literals it is about, and the operator
or keyword it is written with. The root of a file has no span. -/
structure Construct where
  kind : ConstructKind
  nodeType : Text
  span : Option Span := none
  names : List Text := []
  literals : List Text := []
  operator : Option Text := none
  deriving DecidableEq, Repr

namespace Construct

def name? (construct : Construct) : Option Text := construct.names.head?

def literal? (construct : Construct) : Option Text := construct.literals.head?

def startLine? (construct : Construct) : Option Int := construct.span.map (·.startLine)

end Construct

inductive Outline where
  | node (construct : Construct) (children : List Outline)

namespace Outline

def construct : Outline → Construct
  | .node construct _ => construct

def children : Outline → List Outline
  | .node _ children => children

mutual

def size : Outline → Nat
  | .node _ children => 1 + sizeAll children

def sizeAll : List Outline → Nat
  | [] => 0
  | outline :: rest => size outline + sizeAll rest

end

theorem sizeAll_append (a b : List Outline) : sizeAll (a ++ b) = sizeAll a + sizeAll b := by
  induction a with
  | nil => simp [sizeAll]
  | cons outline rest ih => simp [sizeAll, ih, Nat.add_assoc]

mutual

def decideEq : (a b : Outline) → Decidable (a = b)
  | .node c xs, .node d ys =>
      if same : c = d then
        match decideEqAll xs ys with
        | .isTrue equal => .isTrue (by rw [same, equal])
        | .isFalse differ => .isFalse fun equal => differ (by injection equal)
      else .isFalse fun equal => same (by injection equal)

def decideEqAll : (a b : List Outline) → Decidable (a = b)
  | [], [] => .isTrue rfl
  | [], _ :: _ => .isFalse (by simp)
  | _ :: _, [] => .isFalse (by simp)
  | x :: xs, y :: ys =>
      match decideEq x y with
      | .isFalse differ => .isFalse fun equal => differ (by injection equal)
      | .isTrue same =>
          match decideEqAll xs ys with
          | .isTrue equal => .isTrue (by rw [same, equal])
          | .isFalse differ => .isFalse fun equal => differ (by injection equal)

end

instance : DecidableEq Outline := decideEq

end Outline

end Restatement
