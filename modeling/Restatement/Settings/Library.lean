import Restatement.Json.Reader
import Restatement.Settings.Declaration
import Restatement.Workplace

/-!
Loading settings through a library. The library gathers values and validates them, and may raise
exceptions of any kind in doing so. Loading gives the faults of values a form of its own and lets
all other exceptions pass.
-/

namespace Restatement.Settings

inductive Place where
  | member (name : Text)
  | item (index : Nat)
  deriving DecidableEq, Repr

def Place.toText : Place → Text
  | .member name => name
  | .item index => Text.ofNat index

structure Fault where
  location : List Place
  type : Text
  message : Text
  deriving DecidableEq, Repr

/-- An exception that is not about the faults of values. -/
inductive Foreign where
  /-- A structured value is no JSON. -/
  | unreadable (message : Text)
  | reading (path : Text) (cause : ReadFailure)
  | other (kind message : Text)
  deriving DecidableEq, Repr

def Foreign.message : Foreign → Text
  | .unreadable message => message
  | .reading path cause => cause.message path
  | .other _ message => message

inductive Raised where
  | invalid (faults : List Fault)
  | foreign (exception : Foreign)
  deriving DecidableEq, Repr

structure Library where
  Values : Type
  gather : (overrides : List (Text × Json)) → Workplace → Except Raised Values
  validate : Values → Except Raised Declared

def Library.build (library : Library) (overrides : List (Text × Json)) (workplace : Workplace) :
    Except Raised Declared :=
  (library.gather overrides workplace).bind library.validate

/-- A variable of a structured field is there and holds no JSON, whatever the case of its name. -/
structure Garbled (depth : Nat) (environment : List (Text × Text)) (field : Field) : Prop where
  structured : field.isStructured = true
  present : ∃ entry ∈ environment, Text.lower entry.1 = variableOf field
  malformed : ∀ entry ∈ environment, Text.lower entry.1 = variableOf field →
    Json.parse depth entry.2 = .error .malformed

/-- What is relied on in a library. Values that do not pass are told of as faults, and a size that
passes exceeds its bound. A structured value that is no JSON is unreadable, where no file of
variables is read and no variable is nested too deep to be decoded at all. A sensitivity that is
given directly comes before all others. -/
structure Library.Lawful (library : Library) (depth : Nat) : Prop where
  faulty : ∀ values raised, library.validate values = .error raised →
    ∃ faults, raised = .invalid faults
  bounded : ∀ values declared, library.validate values = .ok declared →
    ∀ size ∈ declared.sizes, sizeBound < size
  unreadable : ∀ overrides (workplace : Workplace) field,
    workplace.tree.isFile (.ofText envFileName) = .ok false →
    (∀ entry ∈ workplace.environment, ∀ container,
      Json.parse depth entry.2 ≠ .error (.tooDeep container)) →
    Garbled depth workplace.environment field →
    ∃ message, library.gather overrides workplace = .error (.foreign (.unreadable message))
  direct : ∀ (sensitivity : Sensitivity) others workplace declared,
    library.build ((Field.sensitivity.name, .str sensitivity.name) :: others) workplace =
      .ok declared →
    declared.sensitivity = sensitivity

inductive Failure where
  | configuration (faults : List Fault)
  | foreign (exception : Foreign)
  deriving DecidableEq, Repr

def Failure.message : Failure → Text
  | .configuration faults => "Invalid settings: " ++ Text.ofNat faults.length ++ " error(s)"
  | .foreign exception => exception.message

def load (library : Library) (overrides : List (Text × Json)) (workplace : Workplace) :
    Except Failure Declared :=
  match library.build overrides workplace with
  | .ok declared => .ok declared
  | .error (.invalid faults) => .error (.configuration faults)
  | .error (.foreign exception) => .error (.foreign exception)

end Restatement.Settings
