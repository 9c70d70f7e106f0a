import Restatement.Language.Grammar
import Restatement.SyntaxTree
import Restatement.SyntaxTree.Literal

/-!
What is captured of a node: its kind and the names, literals and operators it is about.
-/

namespace Restatement

structure Captured where
  kind : ConstructKind
  names : List Text := []
  literals : List Text := []
  operator : Option Text := none
  deriving DecidableEq, Repr

namespace Captured

/-- An empty name counts as none. -/
def of (kind : ConstructKind) (name literal operator : Option Text) : Captured where
  kind := kind
  names := name.toList.filter fun name => !name.isEmpty
  literals := literal.toList
  operator := operator

end Captured

namespace SyntaxTree

def text (source : Bytes) (tree : SyntaxTree) : Text := tree.root.text source

def identifier? (source : Bytes) (tree : SyntaxTree) : Option Text :=
  if identifierTypes.contains tree.root.type then some (tree.text source) else none

def literal? (grammar : Grammar) (source : Bytes) (tree : SyntaxTree) : Option Text :=
  if grammar.isLiteral tree.root.type then some (Literal.content (tree.text source))
  else none

def callee? (source : Bytes) (tree : SyntaxTree) : Option Text :=
  match tree.identifier? source with
  | some name => some name
  | none =>
      if tree.root.type = "member_expression".toList then
        (tree.child? "property").bind (identifier? source)
      else if tree.root.type = "attribute".toList then
        (tree.child? "attribute").bind (identifier? source)
      else none

def namedChildren (tree : SyntaxTree) : List SyntaxTree :=
  tree.children.filter fun child => child.root.named

/-- An addition or subtraction of one in place is an update. -/
def captureAssignment (grammar : Grammar) (source : Bytes) (tree : SyntaxTree) : Captured :=
  let name := (tree.child? "left").bind (identifier? source)
  let right := tree.child? "right"
  let operator := (tree.child? "operator").map (text source)
  let addsOne := right.any fun value =>
    grammar.isInteger value.root.type && value.text source == ['1']
  if addsOne && operator == some ['+', '='] then .of .update name none (some ['+', '+'])
  else if addsOne && operator == some ['-', '='] then .of .update name none (some ['-', '-'])
  else .of .assignment name (right.bind (literal? grammar source)) operator

def captureDeclaration (grammar : Grammar) (source : Bytes) (tree : SyntaxTree) : Captured :=
  let keyword := ((tree.child? "kind").map (text source)).getD "var"
  let declarator := tree.namedChildren.find? fun child =>
    child.root.type == ("variable_declarator" : Text)
  .of .declaration
    (declarator.bind fun d => (d.child? "name").bind (identifier? source))
    (declarator.bind fun d => (d.child? "value").bind (literal? grammar source))
    (some keyword)

def captureReturn (grammar : Grammar) (source : Bytes) (tree : SyntaxTree) : Captured :=
  let operand := tree.namedChildren.find? fun child => !grammar.isComment child.root.type
  .of .return (operand.bind (identifier? source)) (operand.bind (literal? grammar source)) none

def captureOwn (grammar : Grammar) (source : Bytes) (tree : SyntaxTree) : Captured :=
  let kind := grammar.kindOf tree.root.type
  match kind with
  | .unknown => .of kind (tree.identifier? source) none none
  | .call =>
      let target := (tree.child? "function").or (tree.child? "constructor")
      .of kind (target.bind (callee? source)) none none
  | .update =>
      let decrement := tree.children.any fun child => child.root.type == ['-', '-']
      .of kind ((tree.child? "argument").bind (identifier? source)) none
        (some (if decrement then ['-', '-'] else ['+', '+']))
  | .assignment => captureAssignment grammar source tree
  | .declaration => captureDeclaration grammar source tree
  | .return => captureReturn grammar source tree
  | .loop => .of kind none none (grammar.loopKeywords.lookup tree.root.type)
  | .functionDef | .classDef =>
      .of kind ((tree.child? "name").bind (identifier? source)) none none
  | _ => .of kind none none none

mutual

def capture (grammar : Grammar) (source : Bytes) : SyntaxTree → Captured
  | .node top children =>
      match (grammar.wrappedField? top.type).bind
        fun field => captureField? grammar source field children with
      | some captured => captured
      | none => captureOwn grammar source (.node top children)

def captureField? (grammar : Grammar) (source : Bytes) (field : Text) :
    List SyntaxTree → Option Captured
  | [] => none
  | tree :: rest =>
      if tree.root.field = some field then some (capture grammar source tree)
      else captureField? grammar source field rest

end

end SyntaxTree

end Restatement
