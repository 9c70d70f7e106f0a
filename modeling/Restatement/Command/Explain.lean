import Restatement.Command.Basic

/-!
The command that shows how the comments on a line are paired with code and scored.
-/

namespace Restatement

def position (comment : Comment) : Text := if comment.trailing then "trailing" else "leading"

def commentLine (classified : Classified) : Text :=
  let (comment, classification) := classified
  "Comment: " ++ Text.quoted comment.firstLine ++ " (" ++ comment.kind.name ++ ", " ++
    position comment ++ ", " ++ classification.purpose.name ++ [')']

def constructLines (sensitivity : Sensitivity) (comment : Comment) : Option Construct → List Text
  | none => ["  Construct: none"]
  | some construct =>
      let line := (construct.startLine?.map Text.ofInt).getD "None"
      let glosses := construct.glosses
      let phrases : Text := if glosses.isEmpty then ['-'] else Text.joinWith ", " glosses
      let verdict := isObvious {} sensitivity comment.firstLine glosses
      ["  Construct: " ++ construct.kind.name ++ " (" ++ construct.nodeType ++ ") at line " ++
          line,
        "  Glosses: " ++ phrases,
        "  Obvious (" ++ sensitivity.name ++ "): " ++ (if verdict then "yes" else "no")]

def explanation (sensitivity : Sensitivity) (index : LineIndex) (classified : Classified) :
    List Text :=
  commentLine classified ::
    constructLines sensitivity classified.1 (adjacent? classified.1 index)

def explainLine (caches : Caches) (file : ParsedFile) (line : Int) (sensitivity : Sensitivity) :
    Logged Outcome :=
  let comments := file.comments.filter fun comment => comment.span.containsLine line
  if comments.isEmpty then ⟨⟨lines ["No comment on line " ++ Text.ofInt line], [], 1⟩, caches, []⟩
  else
    let index := caches.indexFile file
    let classified := index.caches.classifyEach comments
    ⟨⟨lines (classified.value.flatMap (explanation sensitivity index.value)), [], 0⟩,
      classified.caches, index.events ++ classified.events⟩

/-- Whether the system, and not the content of the file, is to blame. -/
def ReadFailure.isSystem : ReadFailure → Bool
  | .notFound | .notDirectory | .isDirectory | .refused _ => true
  | _ => false

/-- The words for a failure that the command answers for. A file with unreadable content is not
answered for. -/
def explainFailure (path : Text) : FileFailure → Except Breakdown Outcome
  | .unreadable place cause =>
      if cause.isSystem then .ok (refusal (cause.message place))
      else .error (.reading place cause)
  | failure => .ok (refusal failure.error.text)
where
  refusal (message : Text) : Outcome := ⟨[], lines ["❌ " ++ path ++ ": " ++ message], 2⟩

def ExplainOptions.run (options : ExplainOptions) (caches : Caches) (workplace : Workplace) :
    Logged (Except Breakdown Outcome) :=
  let source := Source.read workplace.tree options.file none Linter.defaultEncoding
  match source.bind (Source.parse 0) with
  | .error failure => ⟨explainFailure options.file.toText failure, caches, []⟩
  | .ok (file, events) =>
      let explained := explainLine caches file options.line options.sensitivity
      ⟨.ok explained.value, explained.caches.release file, events ++ explained.events⟩

end Restatement
