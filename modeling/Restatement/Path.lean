import Restatement.Text.Case

/-!
File paths. A path keeps its components; repeated separators and components that stay in place
leave no trace, steps to the parent do.
-/

namespace Restatement

structure Path where
  root : Text
  parts : List Text
  deriving DecidableEq, Repr

namespace Path

/-- Two leading separators, and not more, make a root of their own. -/
def rootOf (t : Text) : Text :=
  match (t.takeWhile (· == '/')).length with
  | 0 => []
  | 2 => ['/', '/']
  | _ => ['/']

def ofText (t : Text) : Path where
  root := rootOf t
  parts := (Text.splitOn '/' t).filter fun part => !part.isEmpty && part != ['.']

def toText (path : Path) : Text :=
  match path.root, path.parts with
  | [], [] => ['.']
  | root, parts => root ++ Text.joinWith ['/'] parts

def name (path : Path) : Text := path.parts.getLastD []

/-- The last component from its last point on. A point at either end of the component does not
count. -/
def suffix (path : Path) : Text :=
  let afterPoint := (path.name.reverse.takeWhile (· != '.')).reverse
  let start := path.name.length - afterPoint.length - 1
  if path.name.contains '.' && 0 < start && !afterPoint.isEmpty then '.' :: afterPoint else []

def append (path : Path) (parts : List Text) : Path := { path with parts := path.parts ++ parts }

end Path

end Restatement
