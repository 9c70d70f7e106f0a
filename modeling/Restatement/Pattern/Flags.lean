/-!
The switches a pattern is read and matched under.
-/

namespace Restatement.Pattern

structure Flags where
  ignoreCase : Bool := false
  locale : Bool := false
  multiline : Bool := false
  dotAll : Bool := false
  unicode : Bool := false
  verbose : Bool := false
  ascii : Bool := false
  template : Bool := false
  deriving DecidableEq, Repr

namespace Flags

def cleared : Flags := {}

def ofBits (bits : Nat) : Flags where
  template := bits.testBit 0
  ignoreCase := bits.testBit 1
  locale := bits.testBit 2
  multiline := bits.testBit 3
  dotAll := bits.testBit 4
  unicode := bits.testBit 5
  verbose := bits.testBit 6
  ascii := bits.testBit 8

def ofLetter? : Char → Option Flags
  | 'i' => some { ignoreCase := true }
  | 'L' => some { locale := true }
  | 'm' => some { multiline := true }
  | 's' => some { dotAll := true }
  | 'x' => some { verbose := true }
  | 'a' => some { ascii := true }
  | 't' => some { template := true }
  | 'u' => some { unicode := true }
  | _ => none

def union (a b : Flags) : Flags where
  ignoreCase := a.ignoreCase || b.ignoreCase
  locale := a.locale || b.locale
  multiline := a.multiline || b.multiline
  dotAll := a.dotAll || b.dotAll
  unicode := a.unicode || b.unicode
  verbose := a.verbose || b.verbose
  ascii := a.ascii || b.ascii
  template := a.template || b.template

def without (a b : Flags) : Flags where
  ignoreCase := a.ignoreCase && !b.ignoreCase
  locale := a.locale && !b.locale
  multiline := a.multiline && !b.multiline
  dotAll := a.dotAll && !b.dotAll
  unicode := a.unicode && !b.unicode
  verbose := a.verbose && !b.verbose
  ascii := a.ascii && !b.ascii
  template := a.template && !b.template

def alphabet (a : Flags) : Flags := { ascii := a.ascii, locale := a.locale, unicode := a.unicode }

def meets (a b : Flags) : Bool := a.without (a.without b) != cleared

/-- Flags inside a group that turns some on and some off; a chosen alphabet replaces the outer
one. -/
def adjust (flags on off : Flags) : Flags :=
  let kept := if on.alphabet != cleared then flags.without flags.alphabet else flags
  (kept.union on).without off

end Flags

end Restatement.Pattern
