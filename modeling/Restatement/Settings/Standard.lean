import Restatement.Settings.Validation

/-!
A library of settings: values given directly come before the environment, the environment before a
file of variables, and that before the defaults.
-/

namespace Restatement.Settings

def envFile? (tree : FileTree) : Except Foreign (Option Text) :=
  let path := Path.ofText envFileName
  match tree.isFile path with
  | .error cause => .error (.reading envFileName (.refused cause))
  | .ok false => .ok none
  | .ok true =>
      match (tree.open? path).bind (FileTree.textOf envFileEncoding) with
      | .error cause => .error (.reading envFileName cause)
      | .ok text => .ok (some text)

structure Sources where
  overrides : List (Text × Json) := []
  environment : List (Text × Text) := []
  envFile : Option Text := none

def Sources.variables (sources : Sources) : VariableSource → Variables
  | .environment => foldNames (sources.environment.map fun (name, value) => (name, some value))
  | .envFile => foldNames ((sources.envFile.map (EnvFile.parse sources.environment)).getD [])

def Sources.merged (depth : Nat) (sources : Sources) : Except Foreign Raw := do
  let environment ← ofVariables depth .environment (sources.variables .environment)
  let file ← ofVariables depth .envFile (sources.variables .envFile)
  return merge (merge file environment) (ofOverrides sources.overrides)

def gatherRaw (depth : Nat) (overrides : List (Text × Json)) (workplace : Workplace) :
    Except Foreign Raw := do
  let envFile ← envFile? workplace.tree
  Sources.merged depth ⟨overrides, workplace.environment, envFile⟩

def usualDepth : Nat := 960

def Library.standard (depth : Nat) : Library where
  Values := Raw
  gather overrides workplace := (gatherRaw depth overrides workplace).mapError .foreign
  validate raw := (Settings.validate raw).mapError .invalid

end Restatement.Settings
