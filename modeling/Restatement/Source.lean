import Restatement.FileTree
import Restatement.LintError
import Restatement.Log.Event
import Restatement.Lowering

/-!
Getting from a text or a file to a parsed file, and what can go wrong on the way.
-/

namespace Restatement

inductive FileFailure where
  /-- A text was given under a name that does not tell its language. -/
  | undetected (path : Text)
  /-- A file's extension belongs to no language. -/
  | unmapped (path : Text)
  | unsupported (language path : Text)
  | unparsed (path : Text)
  | unreadable (path : Text) (cause : ReadFailure)
  deriving DecidableEq, Repr

def FileFailure.error : FileFailure → LintError
  | .undetected path => .of .fileAnalysis ("Could not detect language for: " ++ path) (located path)
  | .unmapped path =>
      .of .unsupportedLanguage ("Could not detect language for: " ++ path) (located path)
  | .unsupported language path =>
      .of .unsupportedLanguage ("Language not supported: " ++ language) (located path)
  | .unparsed path => .of .parse ("Failed to parse file: " ++ path) (located path)
  | .unreadable path cause => .of .fileAnalysis (cause.message path) (located path)
where
  located (path : Text) : Entries Json := [("file_path", .str path)]

/-- A text to be parsed. The language is a name that may turn out to be unknown. -/
structure Source where
  path : Text
  content : Text
  language : Text
  parsing : Option Parsing

namespace Source

/-- Reads a file. Its language is told by its extension unless it is given. -/
def read (tree : FileTree) (path : Path) (language : Option Text) (encoding : Text) :
    Except FileFailure Source :=
  match language.or ((Language.detect? path).map Language.name) with
  | none => .error (.unmapped path.toText)
  | some language =>
      match tree.open? path with
      | .error cause => .error (.unreadable path.toText cause)
      | .ok entry =>
          match FileTree.textOf encoding entry with
          | .error cause => .error (.unreadable path.toText cause)
          | .ok content => .ok ⟨path.toText, content, language, entry.parsing⟩

def parse (serial : Nat) (source : Source) : Except FileFailure (ParsedFile × List Event) :=
  match Language.ofName? source.language with
  | none => .error (.unsupported source.language source.path)
  | some language =>
      match source.parsing with
      | none => .error (.unparsed source.path)
      | some parsing =>
          let file := ParsedFile.ofTree serial source.path language source.content parsing.tree
          let errors := if parsing.hasErrors then [.treeHasErrors source.path] else []
          .ok (file, errors ++
            [.sourceParsed source.path language.name file.comments.length file.tokens.length])

end Source

end Restatement
