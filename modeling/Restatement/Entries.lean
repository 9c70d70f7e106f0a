import Restatement.Text.Basic

/-!
Named entries in the order in which their names were first written.
-/

namespace Restatement

abbrev Entries (α : Type) := List (Text × α)

def Entries.set {α : Type} (name : Text) (value : α) : Entries α → Entries α
  | [] => [(name, value)]
  | (other, old) :: rest =>
      if other = name then (name, value) :: rest else (other, old) :: set name value rest

def Entries.ofList {α : Type} (entries : List (Text × α)) : Entries α :=
  entries.foldl (fun written entry => written.set entry.1 entry.2) []

end Restatement
