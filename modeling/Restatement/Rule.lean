import Restatement.Adjacent
import Restatement.Caches
import Restatement.Finding
import Restatement.Gloss
import Restatement.Settings.Basic

/-!
The rule: a comment must not restate the construct it sits next to.
-/

namespace Restatement

/-- The rule as set up by a user. `patterns` are the ignore patterns that can be searched for, and
`warnings` tell of the others. -/
structure Rule where
  settings : Settings
  thresholds : Thresholds
  patterns : List CompiledPattern
  warnings : List Text

namespace Rule

def warning (pattern error : Text) : Text :=
  "Invalid ignore pattern " ++ Text.quoted pattern ++ ": " ++ error

def addPattern (rule : Rule) (pattern : CompiledPattern) : Rule × List Event :=
  match pattern.error? with
  | none => ({ rule with patterns := rule.patterns ++ [pattern] }, [])
  | some error =>
      ({ rule with warnings := rule.warnings ++ [warning pattern.source error] },
        [.patternRefused pattern.source error])

def addPatterns [CharacterNames] (caches : Caches) (rule : Rule) :
    List Text → Logged (Except Pattern.Limit Rule)
  | [] => ⟨.ok rule, caches, []⟩
  | source :: rest =>
      let compiled := caches.compile source 0
      match compiled.value with
      | .error limit => ⟨.error limit, compiled.caches, compiled.events⟩
      | .ok pattern =>
          let (rule, events) := rule.addPattern pattern
          let others := addPatterns compiled.caches rule rest
          { others with events := compiled.events ++ events ++ others.events }

def create [CharacterNames] (settings : Settings) (thresholds : Thresholds) (caches : Caches) :
    Logged (Except Pattern.Limit Rule) :=
  addPatterns caches ⟨settings, thresholds, [], []⟩ settings.ignorePatterns

def ignores (rule : Rule) (t : Text) : Bool := rule.patterns.any (·.search t)

def checksPlace (rule : Rule) (comment : Comment) : Bool :=
  if comment.trailing then rule.settings.checkTrailing else rule.settings.checkLeading

def examines (rule : Rule) (classified : Classified) : Bool :=
  let (comment, classification) := classified
  !classification.isSkipped rule.settings.policy && !classification.isDocBlock &&
    !classification.isDirective && !Wording.isExempt comment.firstLine &&
    !rule.ignores comment.firstLine && rule.checksPlace comment

def isRestatement (rule : Rule) (comment : Comment) (construct : Construct) : Bool :=
  isObvious rule.thresholds rule.settings.sensitivity comment.firstLine construct.glosses

def severity (rule : Rule) (classification : Classification) : Severity :=
  if classification.handling rule.settings.policy = .strict then .error else .warning

def finding (rule : Rule) (classified : Classified) (construct : Construct) : Finding where
  severity := rule.severity classified.2
  span := classified.1.span
  shown := Text.truncate classified.1.firstLine rule.thresholds.messageLimit
  construct := construct.kind

def judge? (rule : Rule) (index : LineIndex) (classified : Classified) : Option Finding := do
  let construct ← adjacent? classified.1 index
  guard (rule.isRestatement classified.1 construct)
  return rule.finding classified construct

/-- The findings of a file. Its line index is built only when some comment is up for judgement. -/
def check (rule : Rule) (caches : Caches) (file : ParsedFile) : Logged (List Finding) :=
  let classified := caches.classifyFile file
  let examined := classified.value.filter rule.examines
  if examined.isEmpty then
    ⟨[], classified.caches, classified.events ++ [.fileChecked file.path 0]⟩
  else
    let index := classified.caches.indexFile file
    let findings := examined.filterMap (rule.judge? index.value)
    ⟨findings, index.caches,
      classified.events ++ index.events ++ [.fileChecked file.path findings.length]⟩

end Rule

end Restatement
