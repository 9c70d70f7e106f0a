import Restatement.Json.Literal

/-!
Errors with a stable code. Each kind belongs to a family that starts at the most general kind.
-/

namespace Restatement

inductive ErrorKind where
  | general
  | configuration
  | parse
  | unsupportedLanguage
  | fileAnalysis
  deriving DecidableEq, Repr

namespace ErrorKind

def name : ErrorKind → Text
  | .general => "CommentLintError"
  | .configuration => "ConfigurationError"
  | .parse => "ParseError"
  | .unsupportedLanguage => "UnsupportedLanguageError"
  | .fileAnalysis => "FileAnalysisError"

def all : List ErrorKind := [.general, .configuration, .parse, .unsupportedLanguage, .fileAnalysis]

def ofName? (name : Text) : Option ErrorKind := all.find? (·.name == name)

def parent? : ErrorKind → Option ErrorKind
  | .general => none
  | .unsupportedLanguage => some .parse
  | _ => some .general

def isA (kind other : ErrorKind) : Bool :=
  kind = other || other = .general || kind.parent? = some other

/-- The code of an error that is given none; the most general kind has no code of its own. -/
def defaultCode : ErrorKind → Text
  | .general => []
  | .configuration => "CONFIGURATION_ERROR"
  | .parse => "PARSE_ERROR"
  | .unsupportedLanguage => "UNSUPPORTED_LANGUAGE"
  | .fileAnalysis => "FILE_ANALYSIS_ERROR"

end ErrorKind

structure LintError where
  kind : ErrorKind
  code : Text
  message : Text
  context : Entries Json

namespace LintError

def of (kind : ErrorKind) (message : Text) (context : Entries Json) : LintError :=
  ⟨kind, kind.defaultCode, message, context⟩

def text (error : LintError) : Text := ['['] ++ error.code ++ "] " ++ error.message

def describe (error : LintError) : Text :=
  let context := error.context.map fun (name, value) => name ++ ['='] ++ value.literal
  error.kind.name ++ "(code=" ++ Text.quoted error.code ++ ", message=" ++
    Text.quoted error.message ++ ", " ++ Text.joinWith ", " context ++ [')']

end LintError

end Restatement
