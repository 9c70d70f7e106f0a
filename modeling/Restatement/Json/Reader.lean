import Restatement.Json.Basic
import Restatement.Text.Numeral

/-!
Reading JSON text. Of a repeated member the last value counts, at the place of the first.
-/

namespace Restatement.Json

def isSpace (c : Char) : Bool := c = ' ' || c = '\t' || c = '\n' || c = '\r'

def skipSpaces (t : Text) : Text := t.dropWhile isSpace

def hexValue? (c : Char) : Option Nat :=
  if '0' ≤ c && c ≤ '9' then some (c.toNat - '0'.toNat)
  else if 'a' ≤ c && c ≤ 'f' then some (c.toNat - 'a'.toNat + 10)
  else if 'A' ≤ c && c ≤ 'F' then some (c.toNat - 'A'.toNat + 10)
  else none

def hexFour? (a b c d : Char) : Option Nat := do
  let a ← hexValue? a
  let b ← hexValue? b
  let c ← hexValue? c
  let d ← hexValue? d
  return ((a * 16 + b) * 16 + c) * 16 + d

def isHigh (n : Nat) : Bool := 0xD800 ≤ n && n < 0xDC00

def isLow (n : Nat) : Bool := 0xDC00 ≤ n && n < 0xE000

def simpleEscape? : Char → Option Char
  | '"' => some '"'
  | '\\' => some '\\'
  | '/' => some '/'
  | 'b' => some (Char.ofNat 8)
  | 'f' => some (Char.ofNat 12)
  | 'n' => some '\n'
  | 'r' => some '\r'
  | 't' => some '\t'
  | _ => none

/-- Reads the code points of a string after its opening quote; `fuel` bounds their number. Halves of
a surrogate pair that follow each other are one code point. -/
def readString : (fuel : Nat) → Text → Option (List Nat × Text)
  | 0, _ => none
  | fuel + 1, t =>
      match t with
      | '"' :: rest => some ([], rest)
      | '\\' :: 'u' :: a :: b :: c :: d :: rest => do
          let n ← hexFour? a b c d
          match rest with
          | '\\' :: 'u' :: e :: f :: g :: h :: rest' =>
              let m ← hexFour? e f g h
              if isHigh n && isLow m then
                let (codes, rest) ← readString fuel rest'
                return ((0x10000 + (n - 0xD800) * 1024 + (m - 0xDC00)) :: codes, rest)
              else
                let (codes, rest) ← readString fuel rest
                return (n :: codes, rest)
          | _ =>
              let (codes, rest) ← readString fuel rest
              return (n :: codes, rest)
      | '\\' :: e :: rest => do
          let c ← simpleEscape? e
          let (codes, rest) ← readString fuel rest
          return (c.toNat :: codes, rest)
      | c :: rest =>
          if c.toNat < 0x20 then none
          else do
            let (codes, rest) ← readString fuel rest
            return (c.toNat :: codes, rest)
      | [] => none

def isAsciiDigit (c : Char) : Bool := '0' ≤ c && c ≤ '9'

def digitsValue (digits : Text) : Nat :=
  digits.foldl (fun n c => 10 * n + (c.toNat - '0'.toNat)) 0

def readFraction : Text → Option (Text × Text)
  | '.' :: rest =>
      match rest.takeWhile isAsciiDigit with
      | [] => none
      | digits => some (digits, rest.dropWhile isAsciiDigit)
  | _ => none

def readSigned : Text → Bool × Text
  | '-' :: rest => (true, rest)
  | '+' :: rest => (false, rest)
  | rest => (false, rest)

def readExponent : Text → Option (Int × Text)
  | e :: rest =>
      if e = 'e' || e = 'E' then
        let (negative, rest) := readSigned rest
        match rest.takeWhile isAsciiDigit with
        | [] => none
        | digits =>
            let size : Int := digitsValue digits
            some (if negative then -size else size, rest.dropWhile isAsciiDigit)
      else none
  | [] => none

/-- Reads a number; a fraction or an exponent makes it a float. An integer with too many digits is
refused. -/
def readNumber (t : Text) : Option (Json × Text) :=
  let (negative, t) :=
    match t with
    | '-' :: rest => (true, rest)
    | rest => (false, rest)
  let whole :=
    match t with
    | '0' :: _ => ['0']
    | t => t.takeWhile isAsciiDigit
  if whole.isEmpty then none
  else
    let rest := t.drop whole.length
    let signed (n : Nat) : Int := if negative then -n else n
    match readFraction rest, readExponent rest with
    | some (fraction, rest), _ =>
        let digits := signed (digitsValue (whole ++ fraction))
        match readExponent rest with
        | some (exponent, rest) =>
            some (.ofDecimal digits (exponent - fraction.length), rest)
        | none => some (.ofDecimal digits (-(fraction.length : Int)), rest)
    | none, some (exponent, rest) =>
        some (.ofDecimal (signed (digitsValue whole)) exponent, rest)
    | none, none =>
        if Text.digitLimit < whole.length then none
        else some (.int (signed (digitsValue whole)), rest)

def namedValues : List (Text × Json) :=
  [("null", .null), ("true", .bool true), ("false", .bool false), ("NaN", .nonFinite .nan),
    ("Infinity", .nonFinite .infinity), ("-Infinity", .nonFinite .negativeInfinity)]

def readWord (t : Text) : Option (Json × Text) :=
  match namedValues.find? fun (name, _) => name.isPrefixOf t with
  | some (name, value) => some (value, t.drop name.length)
  | none => readNumber t

inductive ReadError where
  | malformed
  | tooDeep (container : Text)
  deriving DecidableEq, Repr

def orMalformed {α : Type} : Option α → Except ReadError α
  | some value => .ok value
  | none => .error .malformed

mutual

/-- `depth` is the number of arrays and objects that may still be opened inside each other. -/
def readValue : (fuel depth : Nat) → Text → Except ReadError (Json × Text)
  | 0, _, _ => .error .malformed
  | fuel + 1, depth, t =>
      match t, depth with
      | '"' :: rest, _ =>
          (orMalformed (readString fuel rest)).map fun (codes, rest) => (.ofCodes codes, rest)
      | '[' :: _, 0 => .error (.tooDeep "array")
      | '[' :: rest, depth + 1 =>
          match skipSpaces rest with
          | ']' :: rest => .ok (.arr [], rest)
          | rest => (readItems fuel depth rest).map fun (items, rest) => (.arr items, rest)
      | '{' :: _, 0 => .error (.tooDeep "object")
      | '{' :: rest, depth + 1 =>
          match skipSpaces rest with
          | '}' :: rest => .ok (.obj [], rest)
          | rest => (readMembers fuel depth [] rest).map fun (members, rest) => (.obj members, rest)
      | t, _ => orMalformed (readWord t)

def readItems : (fuel depth : Nat) → Text → Except ReadError (List Json × Text)
  | 0, _, _ => .error .malformed
  | fuel + 1, depth, t =>
      match readValue fuel depth t with
      | .error error => .error error
      | .ok (item, rest) =>
          match skipSpaces rest with
          | ',' :: rest => (readItems fuel depth (skipSpaces rest)).map fun (items, rest) =>
              (item :: items, rest)
          | ']' :: rest => .ok ([item], rest)
          | _ => .error .malformed

def readMembers : (fuel depth : Nat) → List (Text × Json) → Text →
    Except ReadError (List (Text × Json) × Text)
  | 0, _, _, _ => .error .malformed
  | fuel + 1, depth, members, '"' :: rest =>
      match readString fuel rest with
      | none => .error .malformed
      | some (codes, rest) =>
          match skipSpaces rest with
          | ':' :: rest =>
              match readValue fuel depth (skipSpaces rest) with
              | .error error => .error error
              | .ok (value, rest) =>
                  let members := Entries.set (nameOfCodes codes) value members
                  match skipSpaces rest with
                  | ',' :: rest => readMembers fuel depth members (skipSpaces rest)
                  | '}' :: rest => .ok (members, rest)
                  | _ => .error .malformed
          | _ => .error .malformed
  | _ + 1, _, _, _ => .error .malformed

end

def parse (depth : Nat) (t : Text) : Except ReadError Json :=
  match readValue (2 * t.length + 2) depth (skipSpaces t) with
  | .error error => .error error
  | .ok (value, rest) => if (skipSpaces rest).isEmpty then .ok value else .error .malformed

end Restatement.Json
