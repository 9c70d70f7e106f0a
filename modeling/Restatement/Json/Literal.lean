import Restatement.Json.Basic
import Restatement.Number.Decimal
import Restatement.Text.Quoted

/-!
Values as they are written in messages: quoted text, `None`, `True` and `False`.
-/

namespace Restatement.Json

def quotedCodes (codes : List Nat) : Text :=
  let quote := Text.quoteMark (nameOfCodes codes)
  let escaped := codes.flatMap fun n =>
    if n.isValidChar then Text.escapeFor quote (Char.ofNat n)
    else ['\\', 'u'] ++ Text.hexDigits 4 n
  quote :: escaped ++ [quote]

def literalAtom : Json → Text
  | .null => "None"
  | .bool true => "True"
  | .bool false => "False"
  | .int n => Text.ofInt n
  | .float x => x.shortest
  | .nonFinite .nan => "nan"
  | .nonFinite .infinity => "inf"
  | .nonFinite .negativeInfinity => "-inf"
  | .str t => Text.quoted t
  | .broken codes => quotedCodes codes
  | .arr _ => "[]"
  | .obj _ => ['{', '}']

mutual

def literal : Json → Text
  | .arr (item :: items) => '[' :: literal item ++ literalItems items
  | .obj ((name, value) :: members) =>
      '{' :: Text.quoted name ++ ": " ++ literal value ++ literalMembers members
  | atom => literalAtom atom

def literalItems : List Json → Text
  | [] => [']']
  | item :: items => ", " ++ literal item ++ literalItems items

def literalMembers : List (Text × Json) → Text
  | [] => ['}']
  | (name, value) :: members =>
      ", " ++ Text.quoted name ++ ": " ++ literal value ++ literalMembers members

end

end Restatement.Json
