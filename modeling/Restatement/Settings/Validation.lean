import Restatement.Settings.Count
import Restatement.Settings.Source

/-!
Checking raw values. Every field is looked at, and every fault is reported.
-/

namespace Restatement.Settings

inductive Problem where
  | notSensitivity
  | notHandling
  | unclearFlag
  | notFlag
  | notList
  | notText
  | brokenText
  | notPolicy
  | notInteger
  | unclearInteger
  | fractional
  | oversized
  | notFinite
  | tooSmall
  deriving DecidableEq, Repr

namespace Problem

def type : Problem → Text
  | .notSensitivity | .notHandling => "enum"
  | .unclearFlag => "bool_parsing"
  | .notFlag => "bool_type"
  | .notList => "list_type"
  | .notText => "string_type"
  | .brokenText => "string_unicode"
  | .notPolicy => "model_type"
  | .notInteger => "int_type"
  | .unclearInteger => "int_parsing"
  | .fractional => "int_from_float"
  | .oversized => "int_parsing_size"
  | .notFinite => "finite_number"
  | .tooSmall => "greater_than"

def message : Problem → Text
  | .notSensitivity => "Input should be 'low', 'medium' or 'high'"
  | .notHandling => "Input should be 'strict', 'normal' or 'skip'"
  | .unclearFlag => "Input should be a valid boolean, unable to interpret input"
  | .notFlag => "Input should be a valid boolean"
  | .notList => "Input should be a valid list"
  | .notText => "Input should be a valid string"
  | .brokenText => "Input should be a valid string, unable to parse raw data as a unicode string"
  | .notPolicy => "Input should be a valid dictionary or instance of CommentContextPolicy"
  | .notInteger => "Input should be a valid integer"
  | .unclearInteger => "Input should be a valid integer, unable to parse string as an integer"
  | .fractional => "Input should be a valid integer, got a number with a fractional part"
  | .oversized => "Unable to parse input string as an integer, exceeded maximum size"
  | .notFinite => "Input should be a finite number"
  | .tooSmall => "Input should be greater than " ++ Text.ofInt sizeBound

end Problem

abbrev Checked (α : Type) := Except (List Fault) α

def refuse {α : Type} (location : List Place) (problem : Problem) : Checked α :=
  .error [⟨location, problem.type, problem.message⟩]

def checkSensitivity (location : List Place) : Json → Checked Sensitivity
  | .str t =>
      match Sensitivity.ofName? (Text.lower (Text.trim t)) with
      | some sensitivity => .ok sensitivity
      | none => refuse location .notSensitivity
  | .broken _ => refuse location .brokenText
  | _ => refuse location .notSensitivity

def asciiLower (c : Char) : Char := if 'A' ≤ c && c ≤ 'Z' then Char.ofNat (c.toNat + 32) else c

def flagTexts : List (Text × Bool) :=
  [("0", false), ("off", false), ("f", false), ("false", false), ("n", false), ("no", false),
    ("1", true), ("on", true), ("t", true), ("true", true), ("y", true), ("yes", true)]

def flagOfInt? (n : Int) : Option Bool :=
  if n = 0 then some false else if n = 1 then some true else none

/-- Numbers of this size and more are no flags, and no counts when they are floats. -/
def sizeLimit : Nat := twoTo 63

def checkFlag (location : List Place) : Json → Checked Bool
  | .bool b => .ok b
  | .str t => clear (flagTexts.lookup (t.map asciiLower))
  | .broken _ => refuse location .brokenText
  | .int n =>
      if -(sizeLimit : Int) ≤ n && n < sizeLimit then clear (flagOfInt? n)
      else refuse location .notFlag
  | .float x =>
      if x.isIntegral && x.toInt.natAbs < sizeLimit then clear (flagOfInt? x.toInt)
      else refuse location .notFlag
  | _ => refuse location .notFlag
where
  clear : Option Bool → Checked Bool
    | some b => .ok b
    | none => refuse location .unclearFlag

/-- The values of all that passed, or the faults of all that did not. -/
def gather {α : Type} : List (Checked α) → Checked (List α)
  | [] => .ok []
  | first :: rest =>
      match first, gather rest with
      | .ok value, .ok values => .ok (value :: values)
      | .ok _, .error faults => .error faults
      | .error faults, .ok _ => .error faults
      | .error faults, .error others => .error (faults ++ others)

def checkPatterns (location : List Place) : Json → Checked (List Text)
  | .arr items =>
      gather (items.zipIdx.map fun (item, index) =>
        match item with
        | .str t => .ok t
        | .broken _ => refuse (location ++ [.item index]) .brokenText
        | _ => refuse (location ++ [.item index]) .notText)
  | _ => refuse location .notList

def checkHandling (location : List Place) (fallback : Handling) : Option Json → Checked Handling
  | none => .ok fallback
  | some (.str t) =>
      match Handling.ofName? t with
      | some handling => .ok handling
      | none => refuse location .notHandling
  | some (.broken _) => refuse location .brokenText
  | some _ => refuse location .notHandling

def checkPolicy (location : List Place) : Json → Checked Policy
  | .obj members =>
      let usual : Policy := {}
      let member (name : Text) (fallback : Handling) : Checked Handling :=
        checkHandling (location ++ [.member name]) fallback (members.lookup name)
      match member "documentation_comments" usual.documentation,
          member "inline_comments" usual.inline with
      | .ok documentation, .ok inline => .ok ⟨documentation, inline⟩
      | .ok _, .error faults => .error faults
      | .error faults, .ok _ => .error faults
      | .error faults, .error others => .error (faults ++ others)
  | _ => refuse location .notPolicy

def checkInteger (location : List Place) : Json → Checked Int
  | .bool b => .ok (if b then 1 else 0)
  | .int n => .ok n
  | .float x =>
      if !x.isIntegral then refuse location .fractional
      else if x.toInt.natAbs < sizeLimit then .ok x.toInt
      else refuse location .oversized
  | .nonFinite _ => refuse location .notFinite
  | .str t =>
      match readCount t with
      | .ok n => .ok n
      | .error .unreadable => refuse location .unclearInteger
      | .error .oversized => refuse location .oversized
  | .broken _ => refuse location .brokenText
  | _ => refuse location .notInteger

def checkSize (location : List Place) (value : Json) : Checked Int :=
  match checkInteger location value with
  | .error faults => .error faults
  | .ok n => if sizeBound < n then .ok n else refuse location .tooSmall

def checkField {α : Type} (raw : Raw) (field : Field) (fallback : α)
    (check : List Place → Json → Checked α) : Checked α :=
  match raw.lookup field.name with
  | none => .ok fallback
  | some value => check [.member field.name] value

def faultsOf {α : Type} : Checked α → List Fault
  | .ok _ => []
  | .error faults => faults

def validate (raw : Raw) : Checked Declared :=
  let usual : Declared := {}
  let sensitivity := checkField raw .sensitivity usual.sensitivity checkSensitivity
  let leading := checkField raw .checkLeading usual.checkLeading checkFlag
  let trailing := checkField raw .checkTrailing usual.checkTrailing checkFlag
  let patterns := checkField raw .ignorePatterns usual.ignorePatterns checkPatterns
  let policy := checkField raw .policy usual.policy checkPolicy
  let patternSize := checkField raw .patternSize usual.patternSize checkSize
  let remarkSize := checkField raw .remarkSize usual.remarkSize checkSize
  match sensitivity, leading, trailing, patterns, policy, patternSize, remarkSize with
  | .ok sensitivity, .ok leading, .ok trailing, .ok patterns, .ok policy, .ok patternSize,
      .ok remarkSize =>
      .ok ⟨sensitivity, leading, trailing, patterns, policy, patternSize, remarkSize⟩
  | sensitivity, leading, trailing, patterns, policy, patternSize, remarkSize =>
      .error (faultsOf sensitivity ++ faultsOf leading ++ faultsOf trailing ++ faultsOf patterns ++
        faultsOf policy ++ faultsOf patternSize ++ faultsOf remarkSize)

end Restatement.Settings
