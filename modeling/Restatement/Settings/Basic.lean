import Restatement.Cache.Recency
import Restatement.Comment.Policy
import Restatement.Scoring

namespace Restatement

structure Settings where
  sensitivity : Sensitivity := .medium
  checkLeading : Bool := true
  checkTrailing : Bool := true
  ignorePatterns : List Text := []
  policy : Policy := {}
  patternCapacity : Capacity := ⟨200, by decide⟩
  remarkCapacity : Capacity := ⟨300, by decide⟩
  deriving DecidableEq, Repr

end Restatement
