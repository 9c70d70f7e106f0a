import Restatement.Json.Reader
import Restatement.Pattern.Escape
import Restatement.Workplace

/-!
What a command sees as one JSON object: where it runs, the files with the syntax trees that the
parser made of them, further directories, what may not be read or searched, the environment, and
the names of characters. A tree is a list of rows; a row names the row of its parent, the type of
the node, its role, two flags and its place.
-/

namespace Restatement.Snapshot

def textOf : Json → Text
  | .str t => t
  | _ => []

def text? : Json → Option Text
  | .str t => some t
  | _ => none

def natOf : Json → Nat
  | .int n => n.toNat
  | _ => 0

def itemsOf : Json → List Json
  | .arr items => items
  | _ => []

def member (value : Json) (name : Text) : Json := (value.member? name).getD .null

def nodeOf (row : List Json) : SyntaxNode :=
  let number (place : Nat) : Nat := natOf (row.getD place .null)
  { type := textOf (row.getD 1 .null)
    field := text? (row.getD 2 .null)
    named := (number 3).testBit 0
    missing := (number 3).testBit 1
    startByte := number 4
    endByte := number 5
    start := ⟨number 6, number 7⟩
    stop := ⟨number 8, number 9⟩ }

abbrev Waiting := List (Nat × SyntaxTree)

def childrenOf (waiting : Waiting) (place : Nat) : List SyntaxTree :=
  (waiting.filter (·.1 == place)).map (·.2)

def gather : List (List Json × Nat) → Waiting
  | [] => []
  | (row, place) :: rest =>
      let waiting := gather rest
      (natOf (row.getD 0 .null), .node (nodeOf row) (childrenOf waiting place)) ::
        waiting.filter (·.1 != place)

def tree? : Json → Option SyntaxTree
  | .arr (root :: rows) =>
      let waiting := gather ((rows.map itemsOf).zipIdx 1)
      some (.node (nodeOf (itemsOf root)) (childrenOf waiting 0))
  | _ => none

def parsing? (file : Json) : Option Parsing :=
  (tree? (member file "tree")).map fun tree =>
    ⟨tree, match member file "has_error" with
      | .bool hasErrors => hasErrors
      | _ => false⟩

def bytesOfHex : Text → Bytes
  | a :: b :: rest =>
      UInt8.ofNat ((Json.hexValue? a).getD 0 * 16 + (Json.hexValue? b).getD 0) :: bytesOfHex rest
  | _ => []

def bytesOf (file : Json) : Bytes :=
  match member file "hex" with
  | .str hex => bytesOfHex hex
  | _ => Utf8.encode (textOf (member file "text"))

def usualPlace : List Text := ["home", "work"]

def current (snapshot : Json) : List Text :=
  match member snapshot "cwd" with
  | .str place => (Path.ofText place).parts
  | _ => usualPlace

def partsOf (snapshot path : Json) : List Text :=
  let path := Path.ofText (textOf path)
  if path.root.isEmpty then current snapshot ++ path.parts else path.parts

def fileTree (snapshot : Json) : FileTree where
  files := (itemsOf (member snapshot "files")).map fun file =>
    (partsOf snapshot (member file "path"), ⟨bytesOf file, parsing? file⟩)
  directories := (itemsOf (member snapshot "dirs")).map (partsOf snapshot)
  current := current snapshot
  unreadable := (itemsOf (member snapshot "unreadable")).map (partsOf snapshot)
  unsearchable := (itemsOf (member snapshot "unsearchable")).map (partsOf snapshot)

def environment (snapshot : Json) : List (Text × Text) :=
  match member snapshot "env" with
  | .obj members => members.map fun (name, value) => (name, textOf value)
  | _ => []

def workplace (snapshot : Json) : Workplace := ⟨fileTree snapshot, environment snapshot⟩

@[reducible] def names (snapshot : Json) : CharacterNames where
  character? name :=
    match member (member snapshot "names") name with
    | .str [c] => some c
    | _ => none

end Restatement.Snapshot
