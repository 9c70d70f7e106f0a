import Restatement.Construct

/-!
Glosses: stock phrases that say what a construct does and no more.
-/

namespace Restatement

namespace Gloss

def conditional : List Text :=
  ["if", "check if", "conditional", "check condition", "if statement", "condition check",
    "checking if", "checks if"]

def forLoop : List Text :=
  ["loop", "for loop", "iterate", "iteration", "loop through", "iterate through", "iterate over",
    "looping", "loops"]

def whileLoop : List Text := ["while loop", "loop while", "loop", "while", "looping"]

def switch : List Text := ["switch", "switch statement", "switch case", "check cases"]

def tryCatch : List Text := ["try", "try catch", "error handling", "handle errors"]

def throwing : List Text := ["throw", "throw error", "throw exception", "throws"]

def breaking : List Text := ["break", "break loop", "exit loop"]

def continuing : List Text := ["continue", "continue loop", "skip iteration"]

def given? : Option Text → Option Text
  | some (c :: rest) => some (c :: rest)
  | _ => none

def update (name : Text) (decrement : Bool) : List Text :=
  let verb : Text := if decrement then "decrement" else "increment"
  [verb ++ " " ++ name, verb, name ++ (if decrement then "--" else "++"),
    (if decrement then "subtract 1 from " else "add 1 to ") ++ name,
    (if decrement then "subtract one from " else "add one to ") ++ name,
    verb ++ "ing " ++ name, verb ++ "s " ++ name]

def returning (name literal : Option Text) : List Text :=
  let general : List Text := ["return", "return value", "return result", "returns"]
  match name, literal with
  | some name, _ => general ++ ["return " ++ name, "return the " ++ name, "returns " ++ name]
  | none, some literal => general ++ ["return " ++ literal]
  | none, none => general

def call (name : Text) : List Text :=
  ["call " ++ name, name, "invoke " ++ name, "run " ++ name, "execute " ++ name,
    "calling " ++ name, "calls " ++ name]

def initialValue (name literal : Text) : List Text :=
  ["set " ++ name ++ " to " ++ literal, name ++ " equals " ++ literal, name ++ " is " ++ literal]

def declared (name keyword : Text) : List Text :=
  ["declare " ++ name, keyword ++ " " ++ name, "create " ++ name, "define " ++ name,
    "set " ++ name, "initialize " ++ name, "declaring " ++ name, "creates " ++ name,
    "variable " ++ name]

def declaration (name literal : Option Text) (keyword : Text) : List Text :=
  let general : List Text := ["declare variable", "create variable", "define variable"]
  match name, literal with
  | none, _ => general
  | some name, none => declared name keyword ++ general
  | some name, some literal => declared name keyword ++ initialValue name literal ++ general

def assignment (name : Text) (literal : Option Text) : List Text :=
  let general : List Text :=
    ["set " ++ name, "assign " ++ name, name ++ " =", "update " ++ name, "assign to " ++ name,
      "setting " ++ name, "assigns " ++ name]
  match literal with
  | none => general
  | some literal => general ++ ["set " ++ name ++ " to " ++ literal, name ++ " = " ++ literal]

def definition (noun name : Text) : List Text :=
  [noun ++ " " ++ name, "define " ++ name, "create " ++ noun, "declare " ++ noun,
    name ++ " " ++ noun]

end Gloss

/-- The glosses of a construct; a missing name is filled in by a general word. -/
def Construct.glosses (construct : Construct) : List Text :=
  let name := Gloss.given? construct.name?
  let literal := construct.literal?
  match construct.kind with
  | .update => Gloss.update (name.getD "value") (construct.operator == some ("--" : Text))
  | .return => Gloss.returning name literal
  | .call => Gloss.call (name.getD "function")
  | .declaration => Gloss.declaration name literal ((Gloss.given? construct.operator).getD "var")
  | .assignment => Gloss.assignment (name.getD "variable") literal
  | .conditional => Gloss.conditional
  | .loop =>
      if construct.operator == some ("while" : Text) then Gloss.whileLoop else Gloss.forLoop
  | .switch => Gloss.switch
  | .try => Gloss.tryCatch
  | .throw => Gloss.throwing
  | .break => Gloss.breaking
  | .continue => Gloss.continuing
  | .functionDef => Gloss.definition "function" (name.getD "function")
  | .classDef => Gloss.definition "class" (name.getD "class")
  | .empty | .unknown => []

end Restatement
