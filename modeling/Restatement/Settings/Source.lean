import Restatement.Json.Reader
import Restatement.Settings.EnvFile
import Restatement.Settings.Library

/-!
Where settings come from. A source gives raw values for fields; values of several sources are
merged, objects member by member.
-/

namespace Restatement.Settings

abbrev Raw := Entries Json

/-- Variables by lower case name; one that is only mentioned has no value. -/
abbrev Variables := Entries (Option Text)

def foldNames (env : List (Text × Option Text)) : Variables :=
  Entries.ofList (env.map fun (name, value) => (Text.lower name, value))

def splitNesting : (fuel : Nat) → Text → List Text
  | 0, t => [t]
  | _, [] => [[]]
  | fuel + 1, c :: rest =>
      if nesting.isPrefixOf (c :: rest) then [] :: splitNesting fuel (rest.drop 1)
      else
        match splitNesting fuel rest with
        | [] => [[c]]
        | piece :: pieces => (c :: piece) :: pieces

/-- Writes a value at the end of a path of names. A value that is no object ends the path early,
and then nothing is written. -/
def setNested (value : Json) : (path : List Text) → Entries Json → Entries Json
  | [], members => members
  | [last], members => members.set last value
  | name :: path, members =>
      match members.lookup name with
      | none => members.set name (.obj (setNested value path []))
      | some (.obj inner) => members.set name (.obj (setNested value path inner))
      | some _ => members

def nestedMembers (env : Variables) (field : Field) : Entries Json :=
  let front := variableOf field ++ nesting
  env.foldl
    (fun members (name, value) =>
      if front.isPrefixOf name then
        let rest := name.drop front.length
        setNested ((value.map Json.str).getD .null) (splitNesting (rest.length + 1) rest) members
      else members)
    []

mutual

/-- Writes the members of the second object over those of the first; objects that meet are merged
in turn. -/
def merge (members : Entries Json) : List (Text × Json) → Entries Json
  | [] => members
  | (name, value) :: rest =>
      merge (members.set name (mergeValue (members.lookup name) value)) rest

def mergeValue : (old : Option Json) → (new : Json) → Json
  | some (.obj old), .obj new => .obj (merge old new)
  | _, new => new

end

def foldMembers (field : Field) (members : Entries Json) : Entries Json :=
  Entries.ofList (members.map fun (name, value) =>
    let known :=
      if field = .policy then
        policyMembers.find? fun member => Text.lower member == Text.lower name
      else none
    (known.getD name, value))

inductive VariableSource where
  | environment
  | envFile
  deriving DecidableEq, Repr

def VariableSource.label : VariableSource → Text
  | .environment => "EnvSettingsSource"
  | .envFile => "DotEnvSettingsSource"

def unreadable (field : Field) (source : VariableSource) : Foreign :=
  .unreadable ("error parsing value for field \"" ++ field.name ++ "\" from source \"" ++
    source.label ++ ['"'])

def tooDeep (container : Text) : Foreign :=
  .other "RecursionError" ("maximum recursion depth exceeded while decoding a JSON " ++ container ++
    " from a unicode string")

/-- The raw value that variables give a field, if any; `depth` is how far JSON may be nested. -/
def fieldValue? (depth : Nat) (source : VariableSource) (env : Variables) (field : Field) :
    Except Foreign (Option Json) :=
  let written := (env.lookup (variableOf field)).join
  if field.isStructured then
    match written with
    | none =>
        match nestedMembers env field with
        | [] => .ok none
        | members => .ok (some (.obj (foldMembers field members)))
    | some t =>
        match Json.parse depth t with
        | .error .malformed => .error (unreadable field source)
        | .error (.tooDeep container) => .error (tooDeep container)
        | .ok .null => .ok none
        | .ok (.obj members) =>
            .ok (some (.obj (foldMembers field (merge members (nestedMembers env field)))))
        | .ok value => .ok (some value)
  else .ok (written.map Json.str)

def ofVariables (depth : Nat) (source : VariableSource) (env : Variables) :
    Except Foreign Raw := do
  let values ← Field.all.mapM fun field => do
    let value ← fieldValue? depth source env field
    return value.map fun value => (field.name, value)
  return values.filterMap id

/-- Values given directly. Their names count in any case, and the first that names a field gives its
value. -/
def ofOverrides (overrides : List (Text × Json)) : Raw :=
  Field.all.filterMap fun field =>
    (overrides.find? fun (name, _) => Text.lower name == field.name).map fun (_, value) =>
      (field.name, value)

end Restatement.Settings
