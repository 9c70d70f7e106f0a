import Restatement.Settings.Basic
import Restatement.Text.Case

/-!
The settings as they are declared: fields with their defaults, their names, and the names of the
variables that stand for them.
-/

namespace Restatement.Settings

structure Declared where
  sensitivity : Sensitivity := .medium
  checkLeading : Bool := true
  checkTrailing : Bool := true
  ignorePatterns : List Text := []
  policy : Policy := {}
  patternSize : Int := 200
  remarkSize : Int := 300
  deriving DecidableEq, Repr

def sizeBound : Int := 0

def Declared.sizes (declared : Declared) : List Int := [declared.patternSize, declared.remarkSize]

def Declared.usable? (declared : Declared) : Option Settings := do
  let patternCapacity ← Capacity.ofInt? declared.patternSize
  let remarkCapacity ← Capacity.ofInt? declared.remarkSize
  return {
    sensitivity := declared.sensitivity
    checkLeading := declared.checkLeading
    checkTrailing := declared.checkTrailing
    ignorePatterns := declared.ignorePatterns
    policy := declared.policy
    patternCapacity := patternCapacity
    remarkCapacity := remarkCapacity }

inductive Field where
  | sensitivity
  | checkLeading
  | checkTrailing
  | ignorePatterns
  | policy
  | patternSize
  | remarkSize
  deriving DecidableEq, Repr

namespace Field

def name : Field → Text
  | .sensitivity => "sensitivity"
  | .checkLeading => "check_leading_comments"
  | .checkTrailing => "check_trailing_comments"
  | .ignorePatterns => "ignore_patterns"
  | .policy => "comment_context"
  | .patternSize => "regex_cache_size"
  | .remarkSize => "context_cache_size"

def all : List Field :=
  [.sensitivity, .checkLeading, .checkTrailing, .ignorePatterns, .policy, .patternSize,
    .remarkSize]

def isStructured : Field → Bool
  | .ignorePatterns | .policy => true
  | _ => false

end Field

def policyMembers : List Text := ["documentation_comments", "inline_comments"]

def variablePrefix : Text := "COMMENT_LINT_"

def nesting : Text := "__"

def envFileName : Text := ".env"

def envFileEncoding : Text := "utf-8"

/-- The variable of a field, in the lower case in which variables are compared. -/
def variableOf (field : Field) : Text := Text.lower variablePrefix ++ field.name

end Restatement.Settings
