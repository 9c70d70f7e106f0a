import Restatement.Text.Basic

/-!
Command line arguments: options by long name or letter, with values attached or following, among
positional arguments. Two dashes alone end the options.
-/

namespace Restatement

structure OptionForm where
  long : Text
  letter : Option Char
  takesValue : Bool
  deriving DecidableEq, Repr

structure Arguments where
  options : List (Text × Option Text)
  positionals : List Text
  deriving DecidableEq, Repr

namespace Arguments

def addPositional (arguments : Arguments) (value : Text) : Arguments :=
  { arguments with positionals := value :: arguments.positionals }

/-- An option with a value takes the attached one or the next argument; an option without one
refuses an attached one. -/
def readValue? (form : OptionForm) (attached : Option Text) (rest : List Text) :
    Option (Option Text × List Text) :=
  match form.takesValue, attached, rest with
  | true, some value, rest => some (some value, rest)
  | true, none, value :: rest => some (some value, rest)
  | true, none, [] => none
  | false, some _, _ => none
  | false, none, rest => some (none, rest)

def readLetters? (forms : List OptionForm) :
    Text → List Text → Option (List (Text × Option Text) × List Text)
  | [], rest => some ([], rest)
  | c :: letters, rest =>
      match forms.find? (·.letter == some c) with
      | none => none
      | some form =>
          if form.takesValue then
            (readValue? form (if letters.isEmpty then none else some letters) rest).map
              fun (value, rest) => ([(form.long, value)], rest)
          else
            (readLetters? forms letters rest).map fun (options, rest) =>
              ((form.long, none) :: options, rest)

/-- Reads one argument that starts with a dash. A name is tried first, letters second. -/
def readOption? (forms : List OptionForm) (argument : Text) (rest : List Text) :
    Option (List (Text × Option Text) × List Text) :=
  let name := argument.takeWhile (· != '=')
  let attached :=
    if argument.contains '=' then some (argument.drop (name.length + 1)) else none
  match forms.find? (·.long == name) with
  | some form =>
      (readValue? form attached rest).map fun (value, rest) => ([(form.long, value)], rest)
  | none =>
      if ['-', '-'].isPrefixOf argument then none else readLetters? forms (argument.drop 1) rest

def isOption : Text → Bool
  | '-' :: _ :: _ => true
  | _ => false

def readAll? (forms : List OptionForm) : (fuel : Nat) → List Text → Option Arguments
  | _, [] => some ⟨[], []⟩
  | 0, _ :: _ => none
  | fuel + 1, argument :: rest =>
      if argument == ['-', '-'] then some ⟨[], rest⟩
      else if isOption argument then
        match readOption? forms argument rest with
        | none => none
        | some (options, rest) =>
            (readAll? forms fuel rest).map fun arguments =>
              { arguments with options := options ++ arguments.options }
      else (readAll? forms fuel rest).map (·.addPositional argument)

def parse? (forms : List OptionForm) (arguments : List Text) : Option Arguments :=
  readAll? forms arguments.length arguments

def values (arguments : Arguments) (name : Text) : List Text :=
  arguments.options.filterMap fun (given, value) => if given = name then value else none

def value? (arguments : Arguments) (name : Text) : Option Text :=
  (arguments.values name).getLast?

def has (arguments : Arguments) (name : Text) : Bool :=
  arguments.options.any fun (given, _) => given = name

end Arguments

end Restatement
