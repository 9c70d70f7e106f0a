import Restatement.Command.Arguments
import Restatement.Linter
import Restatement.Settings.Library
import Restatement.Text.Numeral

/-!
The commands, as read from the command line, and what running one amounts to.
-/

namespace Restatement

structure CheckOptions where
  paths : List Path
  sensitivity : Option Sensitivity
  noLeading : Bool
  noTrailing : Bool
  ignorePatterns : List Text
  asJson : Bool
  deriving DecidableEq, Repr

structure ExplainOptions where
  file : Path
  line : Int
  sensitivity : Sensitivity
  deriving DecidableEq, Repr

inductive Command where
  | check (options : CheckOptions)
  | explain (options : ExplainOptions)
  deriving DecidableEq, Repr

namespace Command

def checkForms : List OptionForm :=
  [⟨"--sensitivity", some 's', true⟩, ⟨"--no-leading", none, false⟩,
    ⟨"--no-trailing", none, false⟩, ⟨"--ignore-pattern", some 'i', true⟩,
    ⟨"--format", some 'f', true⟩, ⟨"--log-level", none, true⟩]

def explainForms : List OptionForm :=
  [⟨"--line", some 'l', true⟩, ⟨"--sensitivity", some 's', true⟩, ⟨"--log-level", none, true⟩]

def choice? {α : Type} (ofName? : Text → Option α) : Option Text → Option (Option α)
  | none => some none
  | some name => (ofName? name).map some

def formats : List (Text × Bool) := [("text", false), ("json", true)]

def readCheck? (arguments : List Text) : Option Command := do
  let given ← Arguments.parse? checkForms arguments
  let sensitivity ← choice? Sensitivity.ofName? (given.value? "--sensitivity")
  let asJson ← choice? (fun name => formats.lookup name) (given.value? "--format")
  guard (!given.positionals.isEmpty)
  return .check {
    paths := given.positionals.map Path.ofText
    sensitivity := sensitivity
    noLeading := given.has "--no-leading"
    noTrailing := given.has "--no-trailing"
    ignorePatterns := given.values "--ignore-pattern"
    asJson := asJson.getD false }

def readExplain? (arguments : List Text) : Option Command := do
  let given ← Arguments.parse? explainForms arguments
  let sensitivity ← choice? Sensitivity.ofName? (given.value? "--sensitivity")
  let line ← (given.value? "--line").bind Text.readInteger?
  match given.positionals with
  | [file] => return .explain ⟨Path.ofText file, line, sensitivity.getD .medium⟩
  | _ => none

def parse? : List Text → Option Command
  | ['-', '-'] :: rest => named? rest
  | arguments => named? arguments
where
  named? : List Text → Option Command
    | [] => none
    | name :: rest =>
        if name = "check".toList then readCheck? rest
        else if name = "explain".toList then readExplain? rest
        else none

end Command

structure Outcome where
  stdout : Text
  stderr : Text
  exitCode : Nat
  deriving DecidableEq, Repr

inductive Breakdown where
  | settings (exception : Settings.Foreign)
  | capacity
  | pattern (limit : Pattern.Limit)
  | searching (obstacle : Obstacle)
  | reading (path : Text) (cause : ReadFailure)
  deriving DecidableEq, Repr

def Breakdown.message : Breakdown → Text
  | .settings exception => exception.message
  | .capacity => "max_size must be positive"
  | .pattern limit => limit.message
  | .searching obstacle => obstacle.message
  | .reading path cause => cause.message path

def lines (texts : List Text) : Text := texts.flatMap (· ++ ['\n'])

end Restatement
