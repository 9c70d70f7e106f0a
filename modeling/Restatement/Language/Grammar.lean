import Restatement.Construct
import Restatement.Language

/-!
What the node types of each language's grammar stand for.
-/

namespace Restatement

structure Grammar where
  kinds : List (Text × ConstructKind)
  /-- Wrappers that are left out; what they hold takes their place. -/
  transparentTypes : List Text
  commentTypes : List Text := ["comment"]
  literalTypes : List Text
  integerTypes : List Text
  loopKeywords : List (Text × Text)
  /-- Wrappers with the role of the child that says what they are about. -/
  wrappers : List (Text × Text) := []

namespace Grammar

def kindOf (grammar : Grammar) (type : Text) : ConstructKind :=
  (grammar.kinds.lookup type).getD .unknown

def isTransparent (grammar : Grammar) (type : Text) : Bool :=
  grammar.transparentTypes.contains type

def isComment (grammar : Grammar) (type : Text) : Bool := grammar.commentTypes.contains type

def isLiteral (grammar : Grammar) (type : Text) : Bool := grammar.literalTypes.contains type

def isInteger (grammar : Grammar) (type : Text) : Bool := grammar.integerTypes.contains type

def wrappedField? (grammar : Grammar) (type : Text) : Option Text := grammar.wrappers.lookup type

end Grammar

def identifierTypes : List Text :=
  ["identifier", "property_identifier", "private_property_identifier",
    "shorthand_property_identifier", "type_identifier"]

namespace Language

def scriptKinds : List (Text × ConstructKind) :=
  [("for_statement", .loop), ("for_in_statement", .loop), ("while_statement", .loop),
    ("do_statement", .loop), ("if_statement", .conditional), ("switch_statement", .switch),
    ("try_statement", .try), ("throw_statement", .throw), ("break_statement", .break),
    ("continue_statement", .continue), ("return_statement", .return),
    ("empty_statement", .empty), ("call_expression", .call), ("new_expression", .call),
    ("update_expression", .update), ("assignment_expression", .assignment),
    ("augmented_assignment_expression", .assignment), ("lexical_declaration", .declaration),
    ("variable_declaration", .declaration), ("function_declaration", .functionDef),
    ("generator_function_declaration", .functionDef), ("function_expression", .functionDef),
    ("function", .functionDef), ("arrow_function", .functionDef),
    ("method_definition", .functionDef), ("class_declaration", .classDef), ("class", .classDef)]

def typedScriptKinds : List (Text × ConstructKind) :=
  scriptKinds ++
    [("abstract_class_declaration".toList, .classDef), ("function_signature".toList, .functionDef)]

def scriptGrammar (kinds : List (Text × ConstructKind)) : Grammar where
  kinds := kinds
  transparentTypes := ["expression_statement"]
  literalTypes := ["number", "string", "true", "false", "null", "undefined"]
  integerTypes := ["number"]
  loopKeywords :=
    [("for_statement", "for"), ("for_in_statement", "for"), ("while_statement", "while"),
      ("do_statement", "while")]

def pythonKinds : List (Text × ConstructKind) :=
  [("for_statement", .loop), ("while_statement", .loop), ("if_statement", .conditional),
    ("match_statement", .switch), ("try_statement", .try), ("raise_statement", .throw),
    ("break_statement", .break), ("continue_statement", .continue),
    ("return_statement", .return), ("pass_statement", .empty), ("call", .call),
    ("assignment", .assignment), ("augmented_assignment", .assignment),
    ("function_definition", .functionDef), ("lambda", .functionDef),
    ("class_definition", .classDef)]

/-- A block starts on the line of its first statement and would hide it. -/
def pythonGrammar : Grammar where
  kinds := pythonKinds
  transparentTypes := ["expression_statement", "block"]
  literalTypes := ["integer", "float", "string", "true", "false", "none"]
  integerTypes := ["integer"]
  loopKeywords := [("for_statement", "for"), ("while_statement", "while")]
  wrappers := [("decorated_definition", "definition")]

def grammar : Language → Grammar
  | .javascript => scriptGrammar scriptKinds
  | .typescript | .tsx => scriptGrammar typedScriptKinds
  | .python => pythonGrammar

end Language

end Restatement
