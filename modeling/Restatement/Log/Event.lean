import Restatement.Log.Level

/-!
What happens on the way to a result and is worth a line in a log.
-/

namespace Restatement

inductive StoreName where
  | patterns
  | remarks
  deriving DecidableEq, Repr

inductive Event where
  | evicted (store : StoreName) (key : Text)
  | indexBuilt (file : Text) (lines constructs : Nat)
  | patternRefused (pattern error : Text)
  | fileChecked (file : Text) (findings : Nat)
  | treeHasErrors (file : Text)
  | sourceParsed (file language : Text) (comments tokens : Nat)
  | analysisFailed (file code error : Text)
  | runComplete (files findings failures : Nat)
  deriving DecidableEq, Repr

namespace Event

def level : Event → Level
  | .evicted .. | .indexBuilt .. | .fileChecked .. | .treeHasErrors .. | .sourceParsed .. =>
      Level.debug
  | .runComplete .. => Level.info
  | .patternRefused .. | .analysisFailed .. => Level.warning

def reported (level : Level) (events : List Event) : List Event :=
  events.filter fun event => level ≤ event.level

end Event

end Restatement
