import Restatement.Entries
import Restatement.Text.Newline

/-!
Files of environment variables: a line `NAME=value`, with `export` before the name, quotes around
the value and a comment after it as options. A line that cannot be read is passed over.
-/

namespace Restatement.EnvFile

abbrev Binding := Text × Option Text

def isLineEnd (c : Char) : Bool := c = '\r' || c = '\n'

def isInlineBlank (c : Char) : Bool := Text.isBlank c && !isLineEnd c

def skipInline (t : Text) : Text := t.dropWhile isInlineBlank

def skipExport (t : Text) : Text :=
  if ("export" : Text).isPrefixOf t then
    let rest := t.drop 6
    if (rest.head?).any isInlineBlank then skipInline rest else t
  else t

/-- A reader that fails still leaves the place at which it failed. -/
abbrev Read (α : Type) := Except Text (α × Text)

def readKey (t : Text) : Read (Option Text) :=
  match t with
  | '#' :: _ => .ok (none, t)
  | '\'' :: rest =>
      let key := rest.takeWhile (· != '\'')
      match key, rest.drop key.length with
      | _ :: _, _ :: after => .ok (some key, after)
      | _, _ => .error t
  | _ =>
      match t.takeWhile fun c => c != '=' && c != '#' && !Text.isBlank c with
      | [] => .error t
      | key => .ok (some key, t.drop key.length)

/-- The body of a quoted value. The character after a backslash never ends it. -/
def quotedBody? (quote : Char) : Text → Option (Text × Text)
  | [] => none
  | '\\' :: c :: rest => (quotedBody? quote rest).map fun (body, rest) => ('\\' :: c :: body, rest)
  | c :: rest =>
      if c = quote then some ([], rest)
      else (quotedBody? quote rest).map fun (body, rest) => (c :: body, rest)

def singleQuoteEscapes : List (Char × Char) := [('\\', '\\'), ('\'', '\'')]

def doubleQuoteEscapes : List (Char × Char) :=
  [('\\', '\\'), ('\'', '\''), ('"', '"'), ('a', Char.ofNat 7), ('b', Char.ofNat 8),
    ('f', Char.ofNat 12), ('n', '\n'), ('r', '\r'), ('t', '\t'), ('v', Char.ofNat 11)]

def unescape (escapes : List (Char × Char)) : Text → Text
  | [] => []
  | [c] => [c]
  | c :: d :: rest =>
      match if c = '\\' then escapes.lookup d else none with
      | some meant => meant :: unescape escapes rest
      | none => c :: unescape escapes (d :: rest)

def uncommented (line : Text) : Text := Text.trim (cut line)
where
  cut : Text → Text
    | [] => []
    | c :: rest =>
        if Text.isBlank c && ((c :: rest).dropWhile Text.isBlank).head? == some '#' then []
        else c :: cut rest

def readValue (t : Text) : Read Text :=
  match skipInline t with
  | '\'' :: rest =>
      match quotedBody? '\'' rest with
      | some (body, rest) => .ok (unescape singleQuoteEscapes body, rest)
      | none => .error rest
  | '"' :: rest =>
      match quotedBody? '"' rest with
      | some (body, rest) => .ok (unescape doubleQuoteEscapes body, rest)
      | none => .error rest
  | _ =>
      let line := t.takeWhile fun c => !isLineEnd c
      .ok (uncommented line, t.drop line.length)

def skipComment (t : Text) : Text :=
  match skipInline t with
  | '#' :: rest => rest.dropWhile fun c => !isLineEnd c
  | _ => t

def readLineEnd (t : Text) : Read Unit :=
  match skipInline t with
  | [] => .ok ((), [])
  | '\r' :: '\n' :: rest => .ok ((), rest)
  | c :: rest => if isLineEnd c then .ok ((), rest) else .error t

def readAssigned (t : Text) : Read (Option Text) :=
  match skipInline t with
  | '=' :: rest =>
      match readValue rest with
      | .ok (value, rest) => .ok (some value, rest)
      | .error place => .error place
  | rest => .ok (none, rest)

def readBinding (t : Text) : Read (Option Binding) :=
  match readKey (skipExport t) with
  | .error place => .error place
  | .ok (key, rest) =>
      match readAssigned rest with
      | .error place => .error place
      | .ok (value, rest) =>
          match readLineEnd (skipComment rest) with
          | .error place => .error place
          | .ok ((), rest) => .ok (key.map fun key => (key, value), rest)

def skipLine (t : Text) : Text := (t.dropWhile fun c => !isLineEnd c).drop 1

def readAll : (fuel : Nat) → Text → List Binding
  | 0, _ => []
  | fuel + 1, t =>
      match t.dropWhile Text.isBlank with
      | [] => []
      | t =>
          match readBinding t with
          | .ok (binding, rest) => binding.toList ++ readAll fuel rest
          | .error place => readAll fuel (skipLine place)

/-- What a `$` and a pair of braces stand for, given the text after the opening brace: a variable,
or what follows `:-` when there is no such variable. -/
def readReference? (lookup : Text → Option Text) (t : Text) : Option (Text × Text) :=
  let name := t.takeWhile fun c => c != '}' && c != ':'
  match t.drop name.length with
  | '}' :: rest => some ((lookup name).getD [], rest)
  | ':' :: '-' :: rest =>
      let fallback := rest.takeWhile (· != '}')
      match rest.drop fallback.length with
      | '}' :: rest => some ((lookup name).getD fallback, rest)
      | _ => none
  | _ => none

def substitute (lookup : Text → Option Text) : (fuel : Nat) → Text → Text
  | 0, _ => []
  | _, [] => []
  | fuel + 1, '$' :: '{' :: rest =>
      match readReference? lookup rest with
      | some (value, rest) => value ++ substitute lookup fuel rest
      | none => '$' :: substitute lookup fuel ('{' :: rest)
  | fuel + 1, c :: rest => c :: substitute lookup fuel rest

/-- A variable as seen from a line: as written on an earlier line, or as in the environment. -/
def lookupIn (environment : List (Text × Text)) (written : Entries (Option Text)) (name : Text) :
    Option Text :=
  match written.lookup name with
  | some value => some (value.getD [])
  | none => environment.lookup name

def resolve (environment : List (Text × Text)) (bindings : List Binding) :
    Entries (Option Text) :=
  bindings.foldl
    (fun written (name, value) =>
      written.set name
        (value.map fun value =>
          substitute (lookupIn environment written) (value.length + 1) value))
    []

def skipMark (t : Text) : Text :=
  match t with
  | c :: rest => if c.toNat = 0xFEFF then rest else t
  | [] => []

def parse (environment : List (Text × Text)) (t : Text) : Entries (Option Text) :=
  let t := Text.unifyNewlines (skipMark t)
  resolve environment (readAll (t.length + 1) t)

end Restatement.EnvFile
