import Restatement.Pattern.Matcher
import Restatement.Pattern.Parser

/-!
Search patterns: compiled once, then searched for in texts.
-/

namespace Restatement

structure Pattern where
  node : Pattern.Node
  flags : Pattern.Flags
  deriving DecidableEq, Repr

namespace Pattern

def compile [CharacterNames] (source : Text) (flags : Flags) : Except Failure Pattern :=
  (parse source flags).map fun (node, flags) => ⟨node, flags⟩

def search (pattern : Pattern) (t : Text) : Bool :=
  searchFrom pattern.node pattern.flags 0 [] t

end Pattern

end Restatement
