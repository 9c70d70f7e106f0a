import Restatement.Text.Basic

namespace Restatement

inductive Handling where
  | strict
  | normal
  | skip
  deriving DecidableEq, Repr

def Handling.name : Handling → Text
  | .strict => "strict"
  | .normal => "normal"
  | .skip => "skip"

def Handling.ofName? (name : Text) : Option Handling :=
  [Handling.strict, .normal, .skip].find? (·.name == name)

/-- Documentation is skipped and inline comments are checked unless said otherwise. -/
structure Policy where
  documentation : Handling := .skip
  inline : Handling := .normal
  deriving DecidableEq, Repr

end Restatement
