import Restatement.Span
import Restatement.Text.Utf8

/-!
Syntax trees of source files. Rows, columns and bytes count from zero.
-/

namespace Restatement

structure Point where
  row : Nat
  column : Nat
  deriving DecidableEq, Repr

/-- What is known of a node by itself. `field` is the role that the parent gives it; an anonymous
node stands for a fixed piece of text, and a missing one for text that should have been there. -/
structure SyntaxNode where
  type : Text
  field : Option Text
  named : Bool
  missing : Bool
  startByte : Nat
  endByte : Nat
  start : Point
  stop : Point
  deriving DecidableEq, Repr

def SyntaxNode.span (node : SyntaxNode) : Span where
  startLine := node.start.row + 1
  startColumn := node.start.column
  endLine := node.stop.row + 1
  endColumn := node.stop.column
  startOffset := node.startByte
  endOffset := node.endByte

/-- The text of a node; bytes that are not text show as replacement characters. -/
def SyntaxNode.text (source : Bytes) (node : SyntaxNode) : Text :=
  Utf8.decodeLossy ((source.drop node.startByte).take (node.endByte - node.startByte))

inductive SyntaxTree where
  | node (top : SyntaxNode) (children : List SyntaxTree)

namespace SyntaxTree

def root : SyntaxTree → SyntaxNode
  | .node top _ => top

def children : SyntaxTree → List SyntaxTree
  | .node _ children => children

def child? (tree : SyntaxTree) (field : Text) : Option SyntaxTree :=
  tree.children.find? fun child => child.root.field == some field

mutual

def size : SyntaxTree → Nat
  | .node _ children => 1 + sizeAll children

def sizeAll : List SyntaxTree → Nat
  | [] => 0
  | tree :: rest => size tree + sizeAll rest

end

end SyntaxTree

end Restatement
