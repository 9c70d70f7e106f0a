import Restatement.Pattern.Flags

/-!
Patterns as trees.
-/

namespace Restatement.Pattern

inductive Category where
  | digit
  | blank
  | word
  deriving DecidableEq, Repr

inductive ClassItem where
  | point (code : Nat)
  | range (low high : Nat)
  | category (kind : Category) (negated : Bool)
  deriving DecidableEq, Repr

structure CharClass where
  negated : Bool
  items : List ClassItem
  deriving DecidableEq, Repr

inductive Anchor where
  | lineStart
  | lineEnd
  | textStart
  | textEnd
  | boundary
  | insideWord
  deriving DecidableEq, Repr

inductive Greed where
  | greedy
  | reluctant
  | possessive
  deriving DecidableEq, Repr

structure Width where
  least : Nat
  most : Nat
  deriving DecidableEq, Repr

inductive Node where
  | empty
  | any
  | oneOf (chars : CharClass)
  | anchor (kind : Anchor)
  | sequence (first second : Node)
  | choice (first second : Node)
  | repetition (greed : Greed) (least : Nat) (most : Option Nat) (body : Node)
  | capture (group : Nat) (body : Node)
  | scoped (on off : Flags) (body : Node)
  | atomic (body : Node)
  | lookAhead (negated : Bool) (body : Node)
  | lookBehind (negated : Bool) (body : Node)
  | backReference (group : Nat) (width : Width)
  | conditional (group : Nat) (yes no : Node)
  deriving DecidableEq, Repr

namespace Width

def limit : Nat := Nat.pow 2 64

def zero : Width := ⟨0, 0⟩

def capped (w : Width) : Width := ⟨min w.least limit, min w.most limit⟩

def add (a b : Width) : Width := ⟨a.least + b.least, a.most + b.most⟩

def either (a b : Width) : Width := ⟨min a.least b.least, max a.most b.most⟩

def repeatLimit : Nat := Nat.pow 2 32 - 1

def repeated (w : Width) (least : Nat) (most : Option Nat) : Width :=
  ⟨w.least * least, match most with
    | some n => w.most * n
    | none => if w.most = 0 then 0 else limit⟩

end Width

namespace Node

def literal (code : Nat) : Node := .oneOf ⟨false, [.point code]⟩

def ofSequence (nodes : List Node) : Node := nodes.foldr .sequence .empty

def width : Node → Width
  | .empty | .anchor _ | .lookAhead _ _ | .lookBehind _ _ => .zero
  | .any | .oneOf _ => ⟨1, 1⟩
  | .sequence a b => (a.width.add b.width).capped
  | .choice a b => a.width.either b.width
  | .repetition _ least most body => (body.width.repeated least most).capped
  | .capture _ body | .scoped _ _ body | .atomic body => body.width
  | .backReference _ width => width
  | .conditional _ yes no => yes.width.either no.width

end Node

end Restatement.Pattern
