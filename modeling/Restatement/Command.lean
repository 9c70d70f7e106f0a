import Restatement.Command.Check
import Restatement.Command.Explain

namespace Restatement

/-- Runs a command. `caches` are those that the process has for whoever brings none. -/
def Command.run [CharacterNames] (command : Command) (library : Settings.Library)
    (caches : Caches) (workplace : Workplace) : Except Breakdown Outcome :=
  match command with
  | .check options => options.run library workplace
  | .explain options => (options.run caches workplace).value

end Restatement
