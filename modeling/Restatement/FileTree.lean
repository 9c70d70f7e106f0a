import Restatement.Path
import Restatement.SyntaxTree
import Restatement.Text.Encoding
import Restatement.Text.Newline
import Restatement.Text.Quoted

/-!
The files and directories that paths lead to, and reading a file as text. The system may refuse to
follow a path, and a file or directory may be there without being readable.
-/

namespace Restatement

structure Parsing where
  tree : SyntaxTree
  hasErrors : Bool

structure FileEntry where
  bytes : Bytes
  parsing : Option Parsing

/-- Files and directories by their components from the root on. The parents of a file or directory
are directories too, and so are the current directory and its parents. What is `unreadable` cannot
be opened or listed; no name can be looked up in what is `unsearchable`. A name and the text of a
path have a largest number of bytes, and a walk goes down a largest number of directories. -/
structure FileTree where
  files : List (List Text × FileEntry)
  directories : List (List Text)
  current : List Text := []
  unreadable : List (List Text) := []
  unsearchable : List (List Text) := []
  nameLimit : Nat := 255
  pathLimit : Nat := 4095
  depthLimit : Nat := 960

inductive Refusal where
  | permission
  | tooLong
  deriving DecidableEq, Repr

inductive ReadFailure where
  | notFound
  | notDirectory
  | isDirectory
  | refused (cause : Refusal)
  | embeddedNull
  | undecodable (error : DecodeError)
  | unknownEncoding (name : Text)
  deriving DecidableEq, Repr

def ReadFailure.message (path : Text) : ReadFailure → Text
  | .notFound => "[Errno 2] No such file or directory: " ++ Text.quoted path
  | .notDirectory => "[Errno 20] Not a directory: " ++ Text.quoted path
  | .isDirectory => "[Errno 21] Is a directory: " ++ Text.quoted path
  | .refused .permission => "[Errno 13] Permission denied: " ++ Text.quoted path
  | .refused .tooLong => "[Errno 36] File name too long: " ++ Text.quoted path
  | .embeddedNull => "embedded null byte"
  | .undecodable error => error.message
  | .unknownEncoding name => "unknown encoding: " ++ name

namespace FileTree

def file? (tree : FileTree) (parts : List Text) : Option FileEntry := tree.files.lookup parts

def isDirectory (tree : FileTree) (parts : List Text) : Bool :=
  parts.isPrefixOf tree.current || tree.directories.any (parts.isPrefixOf ·) ||
    tree.files.any fun entry => parts.isPrefixOf entry.1 && parts != entry.1

inductive Location where
  | file (parts : List Text) (entry : FileEntry)
  | directory (parts : List Text)
  | nowhere
  | throughFile
  | refused (cause : Refusal)

/-- Follows components from a directory on. The root is its own parent. -/
def follow (tree : FileTree) (here : List Text) : List Text → Location
  | [] => .directory here
  | part :: rest =>
      if tree.unsearchable.contains here then .refused .permission
      else if part = ['.', '.'] then follow tree here.dropLast rest
      else if tree.nameLimit < (Utf8.encode part).length then .refused .tooLong
      else
        let next := here ++ [part]
        if tree.isDirectory next then follow tree next rest
        else
          match tree.file? next, rest with
          | none, _ => .nowhere
          | some entry, [] => .file next entry
          | some _, _ :: _ => .throughFile

/-- A path without a root starts in the current directory, which must be searchable even when no
name follows. -/
def locate (tree : FileTree) (path : Path) : Location :=
  if tree.pathLimit < (Utf8.encode path.toText).length then .refused .tooLong
  else if !path.root.isEmpty then tree.follow [] path.parts
  else if tree.unsearchable.contains tree.current then .refused .permission
  else tree.follow tree.current path.parts

def hasNull (path : Path) : Bool := path.parts.any (·.contains (Char.ofNat 0))

def directory? (tree : FileTree) (path : Path) : Except Refusal (Option (List Text)) :=
  if hasNull path then .ok none
  else
    match tree.locate path with
    | .refused cause => .error cause
    | .directory parts => .ok (some parts)
    | _ => .ok none

def isFile (tree : FileTree) (path : Path) : Except Refusal Bool :=
  if hasNull path then .ok false
  else
    match tree.locate path with
    | .refused cause => .error cause
    | .file _ _ => .ok true
    | _ => .ok false

def canList (tree : FileTree) (path : Path) : Bool :=
  match tree.locate path with
  | .directory parts => !tree.unreadable.contains parts
  | _ => false

def open? (tree : FileTree) (path : Path) : Except ReadFailure FileEntry :=
  if hasNull path then .error .embeddedNull
  else
    match tree.locate path with
    | .file parts entry =>
        if tree.unreadable.contains parts then .error (.refused .permission) else .ok entry
    | .directory parts =>
        if tree.unreadable.contains parts then .error (.refused .permission)
        else .error .isDirectory
    | .nowhere => .error .notFound
    | .throughFile => .error .notDirectory
    | .refused cause => .error (.refused cause)

def textOf (encoding : Text) (entry : FileEntry) : Except ReadFailure Text :=
  match Encoding.ofName? encoding with
  | none => .error (.unknownEncoding encoding)
  | some codec =>
      match codec.decode entry.bytes with
      | .error e => .error (.undecodable e)
      | .ok t => .ok (Text.unifyNewlines t)

end FileTree

end Restatement
