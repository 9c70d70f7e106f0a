import Restatement.Pattern

namespace Restatement

structure CompiledPattern where
  source : Text
  outcome : Except Pattern.Fault Pattern

namespace CompiledPattern

def isValid (pattern : CompiledPattern) : Bool := pattern.outcome.toBool

def error? (pattern : CompiledPattern) : Option Text :=
  match pattern.outcome with
  | .ok _ => none
  | .error fault => some (fault.message pattern.source)

/-- A pattern at fault is found nowhere. -/
def search (pattern : CompiledPattern) (t : Text) : Bool :=
  match pattern.outcome with
  | .ok compiled => compiled.search t
  | .error _ => false

def compile [CharacterNames] (source : Text) (flags : Nat) : Except Pattern.Limit CompiledPattern :=
  match Pattern.compile source (.ofBits flags) with
  | .ok pattern => .ok ⟨source, .ok pattern⟩
  | .error (.invalid fault) => .ok ⟨source, .error fault⟩
  | .error (.limit limit) => .error limit

end CompiledPattern

end Restatement
