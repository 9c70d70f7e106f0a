import Restatement.Entries
import Restatement.Number.Binary64

/-!
JSON values. Objects keep the order in which their members were first written.
-/

namespace Restatement

inductive NonFinite where
  | nan
  | infinity
  | negativeInfinity
  deriving DecidableEq, Repr

inductive Json where
  | null
  | bool (value : Bool)
  | int (value : Int)
  | float (value : Binary64)
  | nonFinite (value : NonFinite)
  | str (value : Text)
  /-- A string of code points some of which are no characters, but halves of surrogate pairs. -/
  | broken (codes : List Nat)
  | arr (items : List Json)
  | obj (members : List (Text × Json))

namespace Json

/-- The number nearest to `digits * 10 ^ exponent`, infinite when no finite one is near. -/
def ofDecimal (digits : Int) (exponent : Int) : Json :=
  let point := (Text.ofNat digits.natAbs).length + exponent
  if digits = 0 || point < -400 then .float (.ofInt 0)
  else
    let infinite := if digits < 0 then NonFinite.negativeInfinity else .infinity
    if 400 < point then .nonFinite infinite
    else
      let value := Binary64.ofDecimal digits exponent
      if value.units.natAbs < twoTo 1024 * Binary64.one then .float value else .nonFinite infinite

def textOfCodes? (codes : List Nat) : Option Text :=
  codes.mapM fun n => if n.isValidChar then some (Char.ofNat n) else none

/-- The code points as a name; half of a surrogate pair has no character of its own. -/
def nameOfCodes (codes : List Nat) : Text :=
  codes.map fun n => if n.isValidChar then Char.ofNat n else Char.ofNat 0xFFFD

def ofCodes (codes : List Nat) : Json :=
  match textOfCodes? codes with
  | some t => .str t
  | none => .broken codes

def member? (name : Text) : Json → Option Json
  | .obj members => members.lookup name
  | _ => none

end Json

end Restatement
