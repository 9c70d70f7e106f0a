import Restatement.Text.Basic
import Restatement.Text.Case.Tables

/-!
Case mappings. `lower` and `upper` map whole texts and may change their length; `lowerChar` and
`upperChar` map one code point to one code point and serve comparisons that ignore case.
-/

namespace Restatement.Text

def lowerChar (c : Char) : Char := Char.ofNat (shiftBy lowerShifts c.toNat)

def upperChar (c : Char) : Char := Char.ofNat (shiftBy upperShifts c.toNat)

def upperOf (c : Char) : Text :=
  match upperExpansions.lookup c.toNat with
  | some points => points.map Char.ofNat
  | none => [upperChar c]

def upper (t : Text) : Text := t.flatMap upperOf

def isCaseIgnorable (c : Char) : Bool := caseIgnorableRanges.has c.toNat

def isCased (c : Char) : Bool := casedRanges.has c.toNat

def hasCase (c : Char) : Bool := lowerChar c != c || upperOf c != [c]

def capitalSigma : Char := Char.ofNat 0x3A3

def smallSigma : Char := Char.ofNat 0x3C3

def finalSigma : Char := Char.ofNat 0x3C2

def capitalDottedI : Char := Char.ofNat 0x130

def casedFollows (t : Text) : Bool :=
  match t.dropWhile isCaseIgnorable with
  | [] => false
  | c :: _ => isCased c

/-- Lowers a text that follows a cased letter or not. A capital sigma at the end of a word becomes
the final form, and the dotted capital I keeps its dot as a combining mark. -/
def lowerAfter (cased : Bool) : Text → Text
  | [] => []
  | c :: rest =>
      let lowered :=
        if c = capitalSigma then [if cased && !casedFollows rest then finalSigma else smallSigma]
        else if c = capitalDottedI then ['i', Char.ofNat 0x307]
        else [lowerChar c]
      lowered ++ lowerAfter (if isCaseIgnorable c then cased else isCased c) rest

def lower (t : Text) : Text := lowerAfter false t

/-- The lower case letters that count as `c` when case is ignored. -/
def lowerVariants (c : Char) : Text :=
  let low := lowerChar c
  low :: ((alternateLowers.lookup low.toNat).getD []).map Char.ofNat

def sameLetter (c d : Char) : Bool := (lowerVariants c).contains (lowerChar d)

def afterIgnoringCase? : (word : Text) → Text → Option Text
  | [], t => some t
  | _ :: _, [] => none
  | w :: word, c :: t => if sameLetter w c then afterIgnoringCase? word t else none

end Restatement.Text
