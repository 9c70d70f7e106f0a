import Restatement.FileTree
import Restatement.Language

/-!
The files that are meant by a list of paths: a directory stands for the source files below it. The
search ends where the system refuses an answer, and what was found before stays found.
-/

namespace Restatement

inductive Obstacle where
  | refused (path : Path) (cause : Refusal)
  | tooDeep (path : Path)
  deriving DecidableEq, Repr

def Obstacle.message : Obstacle → Text
  | .refused path cause => (ReadFailure.refused cause).message path.toText
  | .tooDeep _ => "maximum recursion depth exceeded"

structure Discovery where
  files : List Path
  obstacle : Option Obstacle
  deriving DecidableEq, Repr

namespace Discovery

def found (files : List Path) : Discovery := ⟨files, none⟩

def stopped (obstacle : Obstacle) : Discovery := ⟨[], some obstacle⟩

def andThen (first second : Discovery) : Discovery :=
  match first.obstacle with
  | some _ => first
  | none => ⟨first.files ++ second.files, second.obstacle⟩

end Discovery

namespace FileTree

def ignoredNames : List Text :=
  [".git", "node_modules", "__pycache__", ".venv", "venv", "dist", "build"]

def partsBefore : List Text → List Text → Bool
  | [], [] => false
  | [], _ :: _ => true
  | _ :: _, [] => false
  | p :: ps, q :: qs => Text.before p q || (p == q && partsBefore ps qs)

def below? (directory parts : List Text) : Option (List Text) :=
  if directory.isPrefixOf parts then some (parts.drop directory.length) else none

def stages (relative : List Text) : List (List Text) :=
  (List.range relative.length).map fun count => relative.take (count + 1)

/-- What the tree holds by itself. All that comes before in its components is there too. -/
def places (tree : FileTree) : List (List Text) :=
  tree.files.map (·.1) ++ tree.directories ++ [tree.current]

def placesBelow (tree : FileTree) (directory : List Text) : List (List Text) :=
  ((tree.places.filterMap (below? directory)).flatMap stages).eraseDups

/-- Whether names come up in a walk from a path: every directory on the way can be listed. -/
def isListed (tree : FileTree) (path : Path) : List Text → Bool
  | [] => true
  | name :: rest => tree.canList path && isListed tree (path.append [name]) rest

def listedBelow (tree : FileTree) (path : Path) (directory : List Text) : List (List Text) :=
  (tree.placesBelow directory).filter (tree.isListed path)

/-- Why a walk cannot go on with a directory that has come up. One that may not be listed is
passed over. -/
def barrier? (tree : FileTree) (path : Path) (directory relative : List Text) : Option Obstacle :=
  let place := path.append relative
  if !tree.isDirectory (directory ++ relative) then none
  else if tree.depthLimit < relative.length then some (.tooDeep place)
  else if tree.pathLimit < (Utf8.encode place.toText).length then some (.refused place .tooLong)
  else none

def sift (tree : FileTree) (path : Path) : List (List Text) → Discovery
  | [] => .found []
  | relative :: rest =>
      let place := path.append relative
      if relative.any ignoredNames.contains then sift tree path rest
      else
        match tree.isFile place with
        | .error cause => .stopped (.refused place cause)
        | .ok isFile =>
            if isFile && (Language.detect? place).isSome then
              (Discovery.found [place]).andThen (sift tree path rest)
            else sift tree path rest

/-- Everything below a directory is listed before any of it is looked at. -/
def walk (tree : FileTree) (path : Path) (directory : List Text) : Discovery :=
  let listed := tree.listedBelow path directory
  match listed.findSome? (tree.barrier? path directory) with
  | some obstacle => .stopped obstacle
  | none => tree.sift path (listed.mergeSort fun a b => !partsBefore b a)

/-- A path that is no directory stands for itself, even when nothing is there. -/
def expand (tree : FileTree) (path : Path) : Discovery :=
  match tree.directory? path with
  | .error cause => .stopped (.refused path cause)
  | .ok none => .found [path]
  | .ok (some directory) => tree.walk path directory

def discover (tree : FileTree) : List Path → Discovery
  | [] => .found []
  | path :: rest => (tree.expand path).andThen (discover tree rest)

end FileTree

end Restatement
