import Restatement.Text.Basic

/-!
UTF-8. Reading takes one unit at a time: a scalar value or the maximal ill-formed part in front.
`decode` refuses the first fault, `decodeLossy` writes one replacement character for each.
-/

namespace Restatement

abbrev Bytes := List UInt8

namespace Utf8

def encodeChar (c : Char) : Bytes :=
  let n := c.toNat
  if n < 0x80 then [UInt8.ofNat n]
  else if n < 0x800 then [UInt8.ofNat (0xC0 + n / 64), UInt8.ofNat (0x80 + n % 64)]
  else if n < 0x10000 then
    [UInt8.ofNat (0xE0 + n / 4096), UInt8.ofNat (0x80 + n / 64 % 64), UInt8.ofNat (0x80 + n % 64)]
  else
    [UInt8.ofNat (0xF0 + n / 262144), UInt8.ofNat (0x80 + n / 4096 % 64),
      UInt8.ofNat (0x80 + n / 64 % 64), UInt8.ofNat (0x80 + n % 64)]

def encode (t : Text) : Bytes := t.flatMap encodeChar

inductive Fault where
  | invalidStart
  | invalidContinuation
  | unexpectedEnd
  deriving DecidableEq, Repr

def Fault.message : Fault → Text
  | .invalidStart => "invalid start byte".toList
  | .invalidContinuation => "invalid continuation byte".toList
  | .unexpectedEnd => "unexpected end of data".toList

structure Scanned where
  value : Except Fault Char
  width : Nat

def isContinuation (b : Nat) : Bool := 0x80 ≤ b && b < 0xC0

/-- The second byte of a three byte form: no overlong form and no surrogate. -/
def isSecondOfThree (first second : Nat) : Bool :=
  isContinuation second && (first != 0xE0 || 0xA0 ≤ second) && (first != 0xED || second < 0xA0)

/-- The second byte of a four byte form: no overlong form and nothing past the last plane. -/
def isSecondOfFour (first second : Nat) : Bool :=
  isContinuation second && (first != 0xF0 || 0x90 ≤ second) && (first != 0xF4 || second < 0x90)

def fault (f : Fault) (width : Nat) : Scanned := ⟨.error f, width⟩

def readTwo (first : Nat) : List Nat → Scanned
  | [] => fault .unexpectedEnd 1
  | second :: _ =>
      if isContinuation second then ⟨.ok (Char.ofNat ((first - 0xC0) * 64 + (second - 0x80))), 2⟩
      else fault .invalidContinuation 1

def readThree (first : Nat) : List Nat → Scanned
  | [] => fault .unexpectedEnd 1
  | second :: rest =>
      if isSecondOfThree first second then
        match rest with
        | [] => fault .unexpectedEnd 2
        | third :: _ =>
            if isContinuation third then
              ⟨.ok (Char.ofNat
                ((first - 0xE0) * 4096 + (second - 0x80) * 64 + (third - 0x80))), 3⟩
            else fault .invalidContinuation 2
      else fault .invalidContinuation 1

def readFour (first : Nat) : List Nat → Scanned
  | [] => fault .unexpectedEnd 1
  | second :: rest =>
      if isSecondOfFour first second then
        match rest with
        | [] => fault .unexpectedEnd 2
        | third :: rest =>
            if isContinuation third then
              match rest with
              | [] => fault .unexpectedEnd 3
              | fourth :: _ =>
                  if isContinuation fourth then
                    ⟨.ok (Char.ofNat ((first - 0xF0) * 262144 + (second - 0x80) * 4096 +
                      (third - 0x80) * 64 + (fourth - 0x80))), 4⟩
                  else fault .invalidContinuation 3
            else fault .invalidContinuation 2
      else fault .invalidContinuation 1

def readUnit (first : UInt8) (rest : Bytes) : Scanned :=
  let n := first.toNat
  let ahead := (rest.take 3).map UInt8.toNat
  if n < 0x80 then ⟨.ok (Char.ofNat n), 1⟩
  else if n < 0xC2 then fault .invalidStart 1
  else if n < 0xE0 then readTwo n ahead
  else if n < 0xF0 then readThree n ahead
  else if n < 0xF5 then readFour n ahead
  else fault .invalidStart 1

def replacement : Char := Char.ofNat 0xFFFD

def lossyFrom : (skip : Nat) → Bytes → Text
  | _, [] => []
  | skip + 1, _ :: rest => lossyFrom skip rest
  | 0, first :: rest =>
      let unit := readUnit first rest
      (match unit.value with
        | .ok c => c
        | .error _ => replacement) :: lossyFrom (unit.width - 1) rest

def decodeLossy (bytes : Bytes) : Text := lossyFrom 0 bytes

/-- The bytes that cannot be read: their position, their number, the first of them and why. -/
structure Refusal where
  position : Nat
  width : Nat
  first : UInt8
  fault : Fault
  deriving DecidableEq, Repr

def strictFrom (position : Nat) : (skip : Nat) → Bytes → Except Refusal Text
  | _, [] => .ok []
  | skip + 1, _ :: rest => strictFrom (position + 1) skip rest
  | 0, first :: rest =>
      let unit := readUnit first rest
      match unit.value with
      | .error f => .error ⟨position, unit.width, first, f⟩
      | .ok c =>
          match strictFrom (position + 1) (unit.width - 1) rest with
          | .error e => .error e
          | .ok t => .ok (c :: t)

def decode (bytes : Bytes) : Except Refusal Text := strictFrom 0 0 bytes

end Utf8

end Restatement
