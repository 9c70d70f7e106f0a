import Restatement.Finding
import Restatement.Source

/-!
What is reported of a file, and of a run over several files.
-/

namespace Restatement

structure Report where
  path : Text
  language : Option Text
  findings : List Finding
  failure : Option FileFailure
  deriving DecidableEq, Repr

namespace Report

def failed (report : Report) : Bool := report.failure.isSome

def toJson (report : Report) : Json :=
  .obj
    [("file", .str report.path), ("language", (report.language.map Json.str).getD .null),
      ("findings", .arr (report.findings.map Finding.toJson)),
      ("error",
        match report.failure with
        | none => .null
        | some failure =>
            .obj [("code", .str failure.error.code), ("message", .str failure.error.message)])]

end Report

structure Run where
  reports : List Report
  warnings : List Text
  deriving DecidableEq, Repr

namespace Run

def findings (run : Run) : List (Text × Finding) :=
  run.reports.flatMap fun report => report.findings.map fun finding => (report.path, finding)

def failures (run : Run) : List Report := run.reports.filter Report.failed

def findingCount (run : Run) : Nat := (run.reports.flatMap (·.findings)).length

def hasFindings (run : Run) : Bool := 0 < run.findingCount

def toJson (run : Run) : Json :=
  .obj
    [("files", .arr (run.reports.map Report.toJson)), ("finding_count", .int run.findingCount),
      ("failed_count", .int run.failures.length),
      ("config_warnings", .arr (run.warnings.map Json.str))]

end Run

end Restatement
