import Restatement.Construct

/-!
Constructs by the line on which they start. Lines are in the order in which they first got a
construct, and the constructs of a line are in the order in which they were added.
-/

namespace Restatement

/-- `constructCount` is kept up to date with every addition. -/
structure LineIndex where
  buckets : List (Int × List Construct)
  constructCount : Nat
  deriving DecidableEq, Repr

namespace LineIndex

def empty : LineIndex := ⟨[], 0⟩

def addTo (line : Int) (construct : Construct) :
    List (Int × List Construct) → List (Int × List Construct)
  | [] => [(line, [construct])]
  | (other, bucket) :: rest =>
      if other = line then (other, bucket ++ [construct]) :: rest
      else (other, bucket) :: addTo line construct rest

def add (index : LineIndex) (construct : Construct) : LineIndex :=
  match construct.startLine? with
  | none => index
  | some line => ⟨addTo line construct index.buckets, index.constructCount + 1⟩

def atLine (index : LineIndex) (line : Int) : List Construct :=
  (index.buckets.lookup line).getD []

def firstAt? (index : LineIndex) (line : Int) : Option Construct := (index.atLine line).head?

def hasLine (index : LineIndex) (line : Int) : Bool := (index.buckets.lookup line).isSome

def lines (index : LineIndex) : List Int := index.buckets.map (·.1)

/-- Adds everything that waits on the stack, a parent before its children. -/
def addAll (index : LineIndex) : (stack : List Outline) → LineIndex
  | [] => index
  | .node construct children :: rest => addAll (index.add construct) (children ++ rest)
termination_by stack => Outline.sizeAll stack
decreasing_by
  simp only [Outline.sizeAll_append, Outline.sizeAll, Outline.size]
  omega

def ofOutline (outline : Outline) : LineIndex := addAll empty [outline]

end LineIndex

end Restatement
