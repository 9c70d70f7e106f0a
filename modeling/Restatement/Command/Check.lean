import Restatement.Command.Basic
import Restatement.Json.Printer

/-!
The command that reports comments which restate the code.
-/

namespace Restatement

namespace CheckOptions

def overrides (options : CheckOptions) : List (Text × Json) :=
  (options.sensitivity.toList.map fun s => ("sensitivity".toList, Json.str s.name)) ++
    (if options.noLeading then [("check_leading_comments".toList, .bool false)] else []) ++
    (if options.noTrailing then [("check_trailing_comments".toList, .bool false)] else []) ++
    (if options.ignorePatterns.isEmpty then []
      else [("ignore_patterns".toList, .arr (options.ignorePatterns.map .str))])

end CheckOptions

def Run.exitCode (run : Run) : Nat :=
  if run.hasFindings then 1 else if run.failures.isEmpty then 0 else 2

def findingLine (path : Text) (finding : Finding) : Text :=
  path ++ ":" ++ Text.ofInt finding.span.startLine ++ ":" ++
    Text.ofInt (finding.span.startColumn + 1) ++ "  " ++ finding.severity.name ++ "  " ++
    finding.message ++ "  [" ++ ruleId ++ [']']

def failureLine (report : Report) : Text :=
  report.path ++ ": " ++ ((report.failure.map fun failure => failure.error.text).getD [])

def warningLine (warning : Text) : Text := "warning: " ++ warning

def Run.summary (run : Run) : Text :=
  Text.ofNat run.findingCount ++ " finding(s) in " ++ Text.ofNat run.reports.length ++
    " file(s), " ++ Text.ofNat run.failures.length ++ " failed"

def Run.textOutcome (run : Run) : Outcome where
  stdout := lines ((run.findings.map fun (path, finding) => findingLine path finding) ++
    [[], run.summary])
  stderr := lines (run.warnings.map warningLine ++ run.failures.map failureLine)
  exitCode := run.exitCode

def Run.jsonOutcome (run : Run) : Outcome where
  stdout := lines [run.toJson.renderIndented 0]
  stderr := []
  exitCode := run.exitCode

def faultLine (fault : Settings.Fault) : Text :=
  "   " ++ Text.joinWith ['.'] (fault.location.map Settings.Place.toText) ++ ": " ++ fault.message

def invalidSettings (faults : List Settings.Fault) : Outcome where
  stdout := []
  stderr :=
    let message := (Settings.Failure.configuration faults).message
    lines (("❌ " ++ (LintError.of .configuration message []).text) :: faults.map faultLine)
  exitCode := 2

def CheckOptions.run [CharacterNames] (options : CheckOptions) (library : Settings.Library)
    (workplace : Workplace) : Except Breakdown Outcome :=
  match Settings.load library options.overrides workplace with
  | .error (.configuration faults) => .ok (invalidSettings faults)
  | .error (.foreign exception) => .error (.settings exception)
  | .ok declared =>
      match declared.usable? with
      | none => .error .capacity
      | some settings =>
          match (Linter.create settings).1 with
          | .error limit => .error (.pattern limit)
          | .ok linter =>
              match (linter.lintPaths workplace.tree options.paths).1 with
              | .error obstacle => .error (.searching obstacle)
              | .ok run => .ok (if options.asJson then run.jsonOutcome else run.textOutcome)

end Restatement
