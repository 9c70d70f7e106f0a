import Restatement.Construct
import Restatement.Json.Basic

/-!
Comments that were found to restate the code next to them.
-/

namespace Restatement

inductive Severity where
  | error
  | warning
  deriving DecidableEq, Repr

def Severity.name : Severity → Text
  | .error => "error"
  | .warning => "warning"

/-- `shown` is the comment's first line, cut to a length that fits a message. -/
structure Finding where
  severity : Severity
  span : Span
  shown : Text
  construct : ConstructKind
  deriving DecidableEq, Repr

def ruleId : Text := "no-obvious-comments"

def messageId : Text := "obviousComment"

namespace Finding

def message (finding : Finding) : Text :=
  "Comment '" ++ finding.shown ++
    "' appears to restate the code. Comments should explain 'why', not 'what'."

def toJson (finding : Finding) : Json :=
  .obj
    [("rule_id", .str ruleId), ("message_id", .str messageId), ("message", .str finding.message),
      ("severity", .str finding.severity.name), ("line", .int finding.span.startLine),
      ("column", .int finding.span.startColumn), ("end_line", .int finding.span.endLine),
      ("end_column", .int finding.span.endColumn),
      ("data", .obj [("comment", .str finding.shown), ("construct", .str finding.construct.name)])]

end Finding

end Restatement
