import Restatement.Cache.Owners
import Restatement.Cache.Recency
import Restatement.Comment.Classification
import Restatement.LineIndex
import Restatement.Log.Event
import Restatement.ParsedFile
import Restatement.Pattern.Compiled

/-!
What is remembered from file to file and within a file: compiled patterns and classifications in
bounded stores, line indexes and classified comments for as long as their file is in use.
-/

namespace Restatement

abbrev Classified := Comment × Classification

structure Caches where
  patterns : Recency (Text × Nat) CompiledPattern
  remarks : Recency (CommentKind × Text) Classification
  indexes : OwnerTable ParsedFile LineIndex
  classified : OwnerTable ParsedFile (List Classified)

structure Logged (α : Type) where
  value : α
  caches : Caches
  events : List Event

namespace Caches

def empty (patternCapacity remarkCapacity : Capacity) : Caches where
  patterns := .empty patternCapacity
  remarks := .empty remarkCapacity
  indexes := .empty
  classified := .empty

def usual : Caches := empty ⟨200, by decide⟩ ⟨300, by decide⟩

def clear (caches : Caches) : Caches :=
  { caches with patterns := caches.patterns.clear, remarks := caches.remarks.clear }

def release (caches : Caches) (file : ParsedFile) : Caches :=
  { caches with
    indexes := caches.indexes.erase (.tracked file)
    classified := caches.classified.erase (.tracked file) }

def patternKey (key : Text × Nat) : Text :=
  ['('] ++ Text.quoted key.1 ++ ", " ++ Text.ofNat key.2 ++ [')']

def kindLabel : CommentKind → Text
  | .line => "<CommentKind.LINE: 'line'>"
  | .block => "<CommentKind.BLOCK: 'block'>"

def remarkKey (key : CommentKind × Text) : Text :=
  ['('] ++ kindLabel key.1 ++ ", " ++ Text.quoted key.2 ++ [')']

/-- Compiles a pattern once. A limit of the engine is not remembered, only its miss is counted. -/
def compile [CharacterNames] (caches : Caches) (source : Text) (flags : Nat) :
    Logged (Except Pattern.Limit CompiledPattern) :=
  let key := (source, flags)
  match caches.patterns.get key with
  | (some compiled, patterns) => ⟨.ok compiled, { caches with patterns := patterns }, []⟩
  | (none, patterns) =>
      match CompiledPattern.compile source flags with
      | .error limit => ⟨.error limit, { caches with patterns := patterns }, []⟩
      | .ok compiled =>
          let (evicted, patterns) := patterns.insert key compiled
          ⟨.ok compiled, { caches with patterns := patterns },
            evicted.toList.map fun key => .evicted .patterns (patternKey key)⟩

def classify (caches : Caches) (comment : Comment) : Logged Classification :=
  let key := (comment.kind, comment.body)
  match caches.remarks.get key with
  | (some found, remarks) => ⟨found, { caches with remarks := remarks }, []⟩
  | (none, remarks) =>
      let classification := comment.classify
      let (evicted, remarks) := remarks.insert key classification
      ⟨classification, { caches with remarks := remarks },
        evicted.toList.map fun key => .evicted .remarks (remarkKey key)⟩

def classifyEach (caches : Caches) : List Comment → Logged (List Classified)
  | [] => ⟨[], caches, []⟩
  | comment :: rest =>
      let first := caches.classify comment
      let others := first.caches.classifyEach rest
      ⟨(comment, first.value) :: others.value, others.caches, first.events ++ others.events⟩

def classifyFile (caches : Caches) (file : ParsedFile) : Logged (List Classified) :=
  match caches.classified.get? (.tracked file) with
  | some known => ⟨known, caches, []⟩
  | none =>
      let result := caches.classifyEach file.comments
      { result with
        caches :=
          { result.caches with
            classified := result.caches.classified.set (.tracked file) result.value } }

def indexFile (caches : Caches) (file : ParsedFile) : Logged LineIndex :=
  match caches.indexes.get? (.tracked file) with
  | some index => ⟨index, caches, []⟩
  | none =>
      let index := LineIndex.ofOutline file.outline
      ⟨index, { caches with indexes := caches.indexes.set (.tracked file) index },
        [.indexBuilt file.path index.lines.length index.constructCount]⟩

end Caches

end Restatement
