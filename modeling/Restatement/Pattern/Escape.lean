import Restatement.Pattern.Cursor
import Restatement.Pattern.Node

/-!
Escapes inside and outside of character sets.
-/

namespace Restatement

/-- The characters that have a name. Which there are is left to the tables at hand. -/
class CharacterNames where
  character? : Text → Option Char

@[reducible] def CharacterNames.none : CharacterNames := ⟨fun _ => .none⟩

namespace Pattern

def isOctal (c : Char) : Bool := '0' ≤ c && c ≤ '7'

def isDecimal (c : Char) : Bool := '0' ≤ c && c ≤ '9'

def isHex (c : Char) : Bool :=
  isDecimal c || ('a' ≤ c && c ≤ 'f') || ('A' ≤ c && c ≤ 'F')

def isAsciiLetter (c : Char) : Bool := ('a' ≤ c && c ≤ 'z') || ('A' ≤ c && c ≤ 'Z')

def digitOf (c : Char) : Nat :=
  if isDecimal c then c.toNat - '0'.toNat
  else if 'a' ≤ c then c.toNat - 'a'.toNat + 10
  else c.toNat - 'A'.toNat + 10

def numeral (base : Nat) (digits : Text) : Nat :=
  digits.foldl (fun n c => base * n + digitOf c) 0

def controlEscape? : Char → Option Nat
  | 'a' => some 7
  | 'b' => some 8
  | 'f' => some 12
  | 'n' => some 10
  | 'r' => some 13
  | 't' => some 9
  | 'v' => some 11
  | '\\' => some 92
  | _ => none

def categoryEscape? : Char → Option ClassItem
  | 'd' => some (.category .digit false)
  | 'D' => some (.category .digit true)
  | 's' => some (.category .blank false)
  | 'S' => some (.category .blank true)
  | 'w' => some (.category .word false)
  | 'W' => some (.category .word true)
  | _ => none

def anchorEscape? : Char → Option Anchor
  | 'A' => some .textStart
  | 'b' => some .boundary
  | 'B' => some .insideWord
  | 'Z' => some .textEnd
  | _ => none

def readHex (c : Char) (count : Nat) (cursor : Cursor) : Except Failure (Nat × Cursor) := do
  let (digits, cursor) ← cursor.takeWhile isHex count
  let escape := ['\\', c] ++ digits
  if digits.length = count then
    let code := numeral 16 digits
    if code < 0x110000 then return (code, cursor)
    else if 0x80000000 ≤ code then .error (.limit .codeTooLarge)
    else Cursor.refuse (.badEscape escape) (cursor.position - escape.length)
  else Cursor.refuse (.incompleteEscape escape) (cursor.position - escape.length)

variable [CharacterNames]

def readNamed (cursor : Cursor) : Except Failure (Nat × Cursor) := do
  let (opened, cursor) ← cursor.skip '{'
  if !opened then Cursor.refuse .missingBrace cursor.position
  else
    let (name, cursor) ← cursor.name '}' "character name"
    match CharacterNames.character? name with
    | some c => return (c.toNat, cursor)
    | none => Cursor.refuse (.undefinedCharacter name) (cursor.position - (name.length + 4))

def readCodeEscape? (c : Char) (cursor : Cursor) : Option (Except Failure (Nat × Cursor)) :=
  match c with
  | 'x' => some (readHex c 2 cursor)
  | 'u' => some (readHex c 4 cursor)
  | 'U' => some (readHex c 8 cursor)
  | 'N' => some (readNamed cursor)
  | _ => none

def plainEscape (c : Char) (cursor : Cursor) : Except Failure (Nat × Cursor) :=
  if isAsciiLetter c || isDecimal c then
    Cursor.refuse (.badEscape ['\\', c]) (cursor.position - 2)
  else .ok (c.toNat, cursor)

def readClassEscape (c : Char) (cursor : Cursor) : Except Failure (ClassItem × Cursor) :=
  match controlEscape? c, categoryEscape? c, readCodeEscape? c cursor with
  | some code, _, _ => .ok (.point code, cursor)
  | none, some item, _ => .ok (item, cursor)
  | none, none, some result => result.map fun (code, cursor) => (.point code, cursor)
  | none, none, none =>
      if isOctal c then do
        let (digits, cursor) ← cursor.takeWhile isOctal 2
        let code := numeral 8 (c :: digits)
        let escape := ['\\', c] ++ digits
        if 0o377 < code then
          Cursor.refuse (.octalOutOfRange escape) (cursor.position - escape.length)
        else return (.point code, cursor)
      else (plainEscape c cursor).map fun (code, cursor) => (.point code, cursor)

end Pattern

end Restatement
