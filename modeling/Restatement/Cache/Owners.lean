/-!
Values kept for as long as the thing they belong to.
-/

namespace Restatement

/-- Something a value can belong to. The end of an untracked owner goes unnoticed, so nothing is
kept for it. -/
inductive Owner (ω : Type) where
  | tracked (identity : ω)
  | untracked
  deriving DecidableEq, Repr

structure OwnerTable (ω ν : Type) where
  entries : List (ω × ν)
  deriving DecidableEq, Repr

namespace OwnerTable

variable {ω ν : Type} [DecidableEq ω]

def empty : OwnerTable ω ν := ⟨[]⟩

def size (table : OwnerTable ω ν) : Nat := table.entries.length

def get? (table : OwnerTable ω ν) : Owner ω → Option ν
  | .tracked identity => table.entries.lookup identity
  | .untracked => none

def contains (table : OwnerTable ω ν) (owner : Owner ω) : Bool := (table.get? owner).isSome

def erase (table : OwnerTable ω ν) : Owner ω → OwnerTable ω ν
  | .tracked identity => ⟨table.entries.filter fun entry => entry.1 ≠ identity⟩
  | .untracked => table

def set (table : OwnerTable ω ν) (owner : Owner ω) (value : ν) : OwnerTable ω ν :=
  match owner with
  | .tracked identity => ⟨(table.erase owner).entries ++ [(identity, value)]⟩
  | .untracked => table

end OwnerTable

end Restatement
