import Restatement.Text.Case

/-!
Levels of log events.
-/

namespace Restatement

abbrev Level := Nat

namespace Level

def debug : Level := 10

def info : Level := 20

def warning : Level := 30

def names : List (Text × Level) :=
  [("CRITICAL", 50), ("FATAL", 50), ("ERROR", 40), ("WARNING", warning), ("WARN", warning),
    ("INFO", info), ("DEBUG", debug), ("NOTSET", 0)]

/-- The level of that name in any case; an unknown name stands for `info`. -/
def ofName (name : Text) : Level := (names.lookup (Text.upper name)).getD info

end Level

def logLevelVariable : Text := "LOG_LEVEL"

def levelNameIn (environment : List (Text × Text)) : Text :=
  Text.upper ((environment.lookup logLevelVariable).getD "INFO")

end Restatement
