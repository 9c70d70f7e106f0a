import Restatement.Json.Basic
import Restatement.Number.Decimal

/-!
Writing JSON in ASCII, on one line or indented by two spaces.
-/

namespace Restatement.Json

def unitEscape (n : Nat) : Text := ['\\', 'u'] ++ Text.hexDigits 4 n

def escape (c : Char) : Text :=
  if c = '"' then ['\\', '"']
  else if c = '\\' then ['\\', '\\']
  else if c = '\n' then ['\\', 'n']
  else if c = '\r' then ['\\', 'r']
  else if c = '\t' then ['\\', 't']
  else if c.toNat = 8 then ['\\', 'b']
  else if c.toNat = 12 then ['\\', 'f']
  else if 0x20 ≤ c.toNat && c.toNat < 0x7F then [c]
  else if c.toNat < 0x10000 then unitEscape c.toNat
  else
    let n := c.toNat - 0x10000
    unitEscape (0xD800 + n / 1024) ++ unitEscape (0xDC00 + n % 1024)

def escapeCode (n : Nat) : Text :=
  if n.isValidChar then escape (Char.ofNat n) else unitEscape n

def renderString (t : Text) : Text := '"' :: t.flatMap escape ++ ['"']

def renderAtom : Json → Text
  | .null => "null".toList
  | .bool true => "true".toList
  | .bool false => "false".toList
  | .int n => Text.ofInt n
  | .float x => x.shortest
  | .nonFinite .nan => "NaN".toList
  | .nonFinite .infinity => "Infinity".toList
  | .nonFinite .negativeInfinity => "-Infinity".toList
  | .str t => renderString t
  | .broken codes => '"' :: codes.flatMap escapeCode ++ ['"']
  | .arr _ => "[]".toList
  | .obj _ => ['{', '}']

mutual

def render : Json → Text
  | .arr (item :: items) => '[' :: render item ++ renderItems items
  | .obj ((name, value) :: members) =>
      '{' :: renderString name ++ ": ".toList ++ render value ++ renderMembers members
  | atom => renderAtom atom

def renderItems : List Json → Text
  | [] => [']']
  | item :: items => ", ".toList ++ render item ++ renderItems items

def renderMembers : List (Text × Json) → Text
  | [] => ['}']
  | (name, value) :: members =>
      ", ".toList ++ renderString name ++ ": ".toList ++ render value ++ renderMembers members

end

def newLine (depth : Nat) : Text := '\n' :: List.replicate (2 * depth) ' '

mutual

def renderIndented (depth : Nat) : Json → Text
  | .arr (item :: items) =>
      '[' :: newLine (depth + 1) ++ renderIndented (depth + 1) item ++
        renderIndentedItems depth items
  | .obj ((name, value) :: members) =>
      '{' :: newLine (depth + 1) ++ renderString name ++ ": ".toList ++
        renderIndented (depth + 1) value ++ renderIndentedMembers depth members
  | atom => renderAtom atom

def renderIndentedItems (depth : Nat) : List Json → Text
  | [] => newLine depth ++ [']']
  | item :: items =>
      ',' :: newLine (depth + 1) ++ renderIndented (depth + 1) item ++
        renderIndentedItems depth items

def renderIndentedMembers (depth : Nat) : List (Text × Json) → Text
  | [] => newLine depth ++ ['}']
  | (name, value) :: members =>
      ',' :: newLine (depth + 1) ++ renderString name ++ ": ".toList ++
        renderIndented (depth + 1) value ++ renderIndentedMembers depth members

end

end Restatement.Json
