import Restatement.Text.Numeral

/-!
Whole numbers as settings write them: a sign, zeros in front, low lines between digits and a
fraction of zeros are options. All of them are taken away first, and what is left must be a plain
numeral.
-/

namespace Restatement.Settings

def isAsciiDigit (c : Char) : Bool := '0' ≤ c && c ≤ '9'

/-- What stands after zeros in front and low lines among them, the last of which is `last`. It stays
when nothing or only a fraction follows. -/
def afterZeros? (last : Char) : Text → Option Text
  | [] => some [last]
  | c :: rest =>
      if c = '0' || c = '_' then afterZeros? c rest
      else if c = '-' || isAsciiDigit c then some (c :: rest)
      else if c = '.' then some (last :: c :: rest)
      else none

def dropLeadingZeros? : Text → Option Text
  | [] => none
  | c :: rest =>
      if c = '0' then afterZeros? c rest
      else if c = '-' || isAsciiDigit c then some (c :: rest)
      else none

def dropZeroFraction (t : Text) : Text :=
  let whole := t.takeWhile (· != '.')
  match t.drop (whole.length + 1) with
  | [] => t
  | fraction => if fraction.all (· == '0') then whole else t

/-- The numeral without its low lines. They stay when one stands at an end or two stand together. -/
def dropLowLines (t : Text) : Text :=
  if t.head? == some '_' || t.getLast? == some '_' || Text.occursIn ['_', '_'] t then t
  else t.filter (· != '_')

def bare? (t : Text) : Option Text :=
  (dropLeadingZeros? t).map fun t => dropLowLines (dropZeroFraction t)

def plainNumeral? (t : Text) : Option Text :=
  match Text.trimMargin t with
  | '+' :: '-' :: _ => none
  | '+' :: rest => bare? rest
  | '-' :: rest => (bare? rest).map ('-' :: ·)
  | rest => bare? rest

inductive CountError where
  | unreadable
  | oversized
  deriving DecidableEq, Repr

/-- Reads digits of which the first is no zero, or one zero. The sign counts towards the limit. -/
def readMagnitude (signLength : Nat) (t : Text) : Except CountError Nat :=
  match t with
  | ['0'] => .ok 0
  | '0' :: _ => .error .unreadable
  | t =>
      let digits := t.takeWhile isAsciiDigit
      if Text.digitLimit < signLength + digits.length then .error .oversized
      else if digits.isEmpty || digits.length < t.length then .error .unreadable
      else .ok (digits.foldl (fun n c => 10 * n + (c.toNat - '0'.toNat)) 0)

def readCount (t : Text) : Except CountError Int :=
  match plainNumeral? t with
  | none => .error .unreadable
  | some ('-' :: rest) => (readMagnitude 1 rest).map fun n => -(n : Int)
  | some rest => (readMagnitude 0 rest).map Int.ofNat

end Restatement.Settings
