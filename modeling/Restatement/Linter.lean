import Restatement.FileTree.Discovery
import Restatement.Report
import Restatement.Rule

/-!
Running the rule over files. A file that fails is reported and leaves the others alone.
-/

namespace Restatement

structure Linter where
  rule : Rule
  caches : Caches
  serial : Nat

structure Linted where
  report : Report
  linter : Linter
  events : List Event

namespace Linter

def create [CharacterNames] (settings : Settings) : Except Pattern.Limit Linter × List Event :=
  let caches := Caches.empty settings.patternCapacity settings.remarkCapacity
  let created := Rule.create settings {} caches
  (created.value.map fun rule => ⟨rule, created.caches, 0⟩, created.events)

def failWith (linter : Linter) (path : Text) (language : Option Text) (failure : FileFailure) :
    Linted where
  report := ⟨path, language, [], some failure⟩
  linter := linter
  events := [.analysisFailed path failure.error.code failure.error.message]

def analyze (linter : Linter) (path : Text) (language : Option Text)
    (source : Except FileFailure Source) : Linted :=
  match source.bind (Source.parse linter.serial) with
  | .error failure => linter.failWith path language failure
  | .ok (file, events) =>
      let checked := linter.rule.check linter.caches file
      { report := ⟨path, language, checked.value, none⟩
        linter :=
          { linter with caches := checked.caches.release file, serial := linter.serial + 1 }
        events := events ++ checked.events }

def lintSource (linter : Linter) (path content : Text) (language : Option Text)
    (parsing : Option Parsing) : Linted :=
  match language.or ((Language.detect? (Path.ofText path)).map Language.name) with
  | none => ⟨⟨path, none, [], some (.undetected path)⟩, linter, []⟩
  | some language => linter.analyze path (some language) (.ok ⟨path, content, language, parsing⟩)

def defaultEncoding : Text := "utf-8"

def lintFile (linter : Linter) (tree : FileTree) (path : Path) : Linted :=
  let language := (Language.detect? path).map Language.name
  linter.analyze path.toText language (Source.read tree path language defaultEncoding)

def lintFiles (linter : Linter) (tree : FileTree) : List Path → List Report × Linter × List Event
  | [] => ([], linter, [])
  | path :: rest =>
      let first := linter.lintFile tree path
      let (reports, last, events) := first.linter.lintFiles tree rest
      (first.report :: reports, last, first.events ++ events)

/-- Lints everything that the paths stand for. Files are linted as they are come upon, but a search
that cannot go on leaves no run behind. -/
def lintPaths (linter : Linter) (tree : FileTree) (paths : List Path) :
    Except Obstacle Run × Linter × List Event :=
  let discovery := tree.discover paths
  let (reports, last, events) := linter.lintFiles tree discovery.files
  let run : Run := ⟨reports, linter.rule.warnings⟩
  match discovery.obstacle with
  | some obstacle => (.error obstacle, last, events)
  | none =>
      (.ok run, last,
        events ++ [.runComplete reports.length run.findingCount run.failures.length])

end Linter

end Restatement
