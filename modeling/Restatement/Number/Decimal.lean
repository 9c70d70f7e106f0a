import Restatement.Number.Binary64
import Restatement.Text.Basic

/-!
Decimal text of double precision numbers: a fixed number of places, or the fewest digits that read
back as the same number.
-/

namespace Restatement.Binary64

def fixed (places : Nat) (x : Binary64) : Text :=
  let scaled := roundHalfEven (x.units.natAbs * tenTo places) one
  let whole := Text.ofNat (scaled / tenTo places)
  let digits := Text.ofNat (scaled % tenTo places)
  (if x.units < 0 then ['-'] else []) ++ whole ++ ['.'] ++
    List.replicate (places - digits.length) '0' ++ digits

def pointFrom (size : Nat) : (fuel : Nat) → Int → Int
  | 0, k => k
  | fuel + 1, k =>
      let below :=
        if 0 ≤ k then size < tenTo k.toNat * one else size * tenTo (-k).toNat < one
      if below then k else pointFrom size fuel (k + 1)

/-- Four times the distance of the ends of the interval of values that round to `size` units. -/
def halfGaps (size : Nat) : Nat × Nat :=
  let spacing := twoTo (excessBits size)
  let below := if size = twoTo 52 * spacing && spacing != 1 then spacing else 2 * spacing
  (below, 2 * spacing)

/-- The best decimal with digits down to `10 ^ grid` that rounds to `size` units, if any. -/
def onGrid? (size : Nat) (grid : Int) : Option Nat :=
  let up := tenTo (-grid).toNat
  let down := tenTo grid.toNat * one
  let value := 4 * size * up
  let (gapBelow, gapAbove) := halfGaps size
  let even := size / twoTo (excessBits size) % 2 = 0
  let inside (digits : Nat) : Bool :=
    let point := 4 * digits * down
    let low := value - gapBelow * up
    let high := value + gapAbove * up
    if even then low ≤ point && point ≤ high else low < point && point < high
  let floor := size * up / down
  let distance (digits : Nat) : Nat := ((4 * digits * down : Nat) - (value : Int)).natAbs
  match inside floor, inside (floor + 1) with
  | true, true => some (if distance (floor + 1) < distance floor then floor + 1 else floor)
  | true, false => some floor
  | false, true => some (floor + 1)
  | false, false => none

/-- The first grid, coarsest first, that holds a decimal rounding to `size` units. -/
def shortestFrom (size : Nat) (point : Int) : (places : Nat) → (fuel : Nat) → Nat × Int
  | places, 0 => (size * tenTo places / one, -places)
  | places, fuel + 1 =>
      let grid := point - places
      match onGrid? size grid with
      | some digits => (digits, grid)
      | none => shortestFrom size point (places + 1) fuel

def stripZeros : (fuel : Nat) → Nat → Int → Nat × Int
  | 0, digits, grid => (digits, grid)
  | fuel + 1, digits, grid =>
      if digits % 10 = 0 && digits != 0 then stripZeros fuel (digits / 10) (grid + 1)
      else (digits, grid)

/-- The fewest digits that read back. Positions from `10 ^ -4` up to `10 ^ 16` are written out,
others with an exponent of at least two digits. -/
def shortest (x : Binary64) : Text :=
  let size := x.units.natAbs
  let sign := if x.units < 0 then ['-'] else []
  if size = 0 then "0.0".toList
  else
    let point := pointFrom size 700 (-330)
    let (digits, grid) := shortestFrom size point 1 17
    let (digits, grid) := stripZeros 20 digits grid
    let text := Text.ofNat digits
    let point := grid + text.length
    sign ++
      if 16 < point || point < -3 then
        let exponent := point - 1
        let size := Text.ofNat exponent.natAbs
        text.take 1 ++ (if text.length = 1 then [] else '.' :: text.drop 1) ++ ['e'] ++
          (if exponent < 0 then ['-'] else ['+']) ++ List.replicate (2 - size.length) '0' ++ size
      else if point ≤ 0 then "0.".toList ++ List.replicate (-point).toNat '0' ++ text
      else if text.length ≤ point then
        text ++ List.replicate (point.toNat - text.length) '0' ++ ".0".toList
      else text.take point.toNat ++ ['.'] ++ text.drop point.toNat

end Restatement.Binary64
