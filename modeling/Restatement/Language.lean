import Restatement.Path

/-!
The languages that comments are checked in, by name and by file extension.
-/

namespace Restatement

inductive Language where
  | javascript
  | typescript
  | tsx
  | python
  deriving DecidableEq, Repr

namespace Language

def name : Language → Text
  | .javascript => "javascript"
  | .typescript => "typescript"
  | .tsx => "tsx"
  | .python => "python"

def all : List Language := [.javascript, .typescript, .tsx, .python]

def aliases : List (Text × Language) :=
  [("js", .javascript), ("jsx", .javascript), ("ts", .typescript), ("py", .python)]

def canonicalName (name : Text) : Text :=
  let lowered := Text.lower name
  ((aliases.lookup lowered).map Language.name).getD lowered

def ofName? (name : Text) : Option Language := all.find? (·.name == canonicalName name)

def extensions : List (Text × Language) :=
  [(".js", .javascript), (".jsx", .javascript), (".mjs", .javascript), (".cjs", .javascript),
    (".ts", .typescript), (".mts", .typescript), (".cts", .typescript), (".tsx", .tsx),
    (".py", .python), (".pyi", .python)]

def detect? (path : Path) : Option Language := extensions.lookup (Text.lower path.suffix)

end Language

structure Languages where
  loaded : List Language
  deriving DecidableEq, Repr

namespace Languages

def all : Languages := ⟨Language.all⟩

def ofNames (names : List Text) : Languages :=
  ⟨names.filterMap fun name => Language.all.find? (·.name == name)⟩

def find? (languages : Languages) (name : Text) : Option Language :=
  languages.loaded.find? (·.name == Language.canonicalName name)

def supports (languages : Languages) (name : Text) : Bool := (languages.find? name).isSome

def sorted (texts : List Text) : List Text := texts.mergeSort fun a b => !Text.before b a

def names (languages : Languages) : List Text :=
  sorted (languages.loaded.eraseDups.map Language.name)

def extensions (languages : Languages) : List Text :=
  sorted ((Language.extensions.filter fun entry => languages.loaded.contains entry.2).map (·.1))

end Languages

end Restatement
