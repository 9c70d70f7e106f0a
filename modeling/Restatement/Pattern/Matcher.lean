import Restatement.Pattern.Node
import Restatement.Text.Case
import Restatement.Text.Digit
import Restatement.Text.Word

/-!
Matching by backtracking. A node is matched in front of a continuation, which is asked whether the
rest of the pattern can follow. A repetition ends after an empty round, so the text that is left
bounds its rounds.
-/

namespace Restatement.Pattern

/-- A place in the text, the text before it in reverse, and the groups captured so far. -/
structure Place where
  position : Nat
  before : Text
  after : Text
  groups : List (Nat × Text)

namespace Place

def start (t : Text) : Place := ⟨0, [], t, []⟩

def step (place : Place) (c : Char) (rest : Text) : Place :=
  { place with position := place.position + 1, before := c :: place.before, after := rest }

def forward : (count : Nat) → Place → Place
  | 0, place => place
  | count + 1, place =>
      match place.after with
      | [] => place
      | c :: rest => forward count (place.step c rest)

def back : (count : Nat) → Place → Place
  | 0, place => place
  | count + 1, place =>
      match place.before with
      | [] => place
      | c :: rest =>
          back count { place with
            position := place.position - 1, before := rest, after := c :: place.after }

def isEmptyText (place : Place) : Bool := place.before.isEmpty && place.after.isEmpty

end Place

def isAsciiWord (c : Char) : Bool := c.isAlphanum || c = '_'

def isAsciiBlank (c : Char) : Bool := c = ' ' || (9 ≤ c.toNat && c.toNat ≤ 13)

def isWord (ascii : Bool) (c : Char) : Bool := if ascii then isAsciiWord c else Text.isWordChar c

def Category.accepts (ascii : Bool) : Category → Char → Bool
  | .digit, c => if ascii then c.isDigit else Text.isDigit c
  | .blank, c => if ascii then isAsciiBlank c else Text.isBlank c
  | .word, c => isWord ascii c

/-- The letter that stands for `c` when case is ignored. -/
def fold (ascii : Bool) (c : Char) : Char := if ascii then c.toLower else Text.lowerChar c

def pointHasCase (ascii : Bool) (code : Nat) : Bool :=
  let c := Char.ofNat code
  c.toNat == code && (if ascii then c.isAlpha else Text.hasCase c)

def foldedVariants (ascii : Bool) (code : Nat) : Text :=
  let c := Char.ofNat code
  if ascii then [c.toLower] else Text.lowerVariants c

def shiftMeets (low high : Nat) (s : Text.Shift) : Bool :=
  let first :=
    if low ≤ s.low then s.low
    else s.low + (low - s.low + s.stride - 1) / s.stride * s.stride
  first ≤ s.high && first ≤ high

def rangeHasCase (ascii : Bool) (low high : Nat) : Bool :=
  if ascii then (low ≤ 90 && 65 ≤ high) || (low ≤ 122 && 97 ≤ high)
  else
    Text.lowerShifts.any (shiftMeets low high) || Text.upperShifts.any (shiftMeets low high) ||
      Text.upperExpansions.any fun (code, _) => low ≤ code && code ≤ high

def basicPlaneEnd : Nat := 0xFFFF

def ClassItem.hasCase (ascii : Bool) : ClassItem → Bool
  | .point code => pointHasCase ascii code || basicPlaneEnd < code
  | .range low high => rangeHasCase ascii low high || basicPlaneEnd < high
  | .category _ _ => false

def lowerSources (code : Nat) : List Nat :=
  (if Text.shiftBy Text.lowerShifts code = code then [code] else []) ++
    Text.lowerShifts.filterMap fun s =>
      let source := ((code : Int) - s.offset).toNat
      if s.covers source then some source else none

def rangeFoldsTo (ascii : Bool) (low high : Nat) (c : Char) : Bool :=
  let inside (code : Nat) : Bool := low ≤ code && code ≤ high
  if ascii then
    inside c.toNat && !c.isUpper || (c.isLower && inside (c.toNat - 32))
  else
    (c.toNat :: ((Text.alternateLowers.lookup c.toNat).getD [])).any fun code =>
      (lowerSources code).any fun source => inside source && source ≤ basicPlaneEnd

def ClassItem.accepts (ascii : Bool) (c : Char) : ClassItem → Bool
  | .point code => c.toNat = code
  | .range low high => low ≤ c.toNat && c.toNat ≤ high
  | .category kind negated => kind.accepts ascii c != negated

/-- Acceptance of a folded letter; outside of the basic plane points are compared as they are. -/
def ClassItem.acceptsFolded (ascii : Bool) (c : Char) : ClassItem → Bool
  | .point code =>
      if basicPlaneEnd < code then c.toNat = code else (foldedVariants ascii code).contains c
  | .range low high =>
      rangeFoldsTo ascii low high c ||
        (basicPlaneEnd < high &&
          ((low ≤ c.toNat && c.toNat ≤ high) ||
            (low ≤ (Text.upperChar c).toNat && (Text.upperChar c).toNat ≤ high)))
  | .category kind negated => kind.accepts ascii c != negated

def literalAccepts (ascii : Bool) (code : Nat) (c : Char) : Bool :=
  if pointHasCase ascii code then (foldedVariants ascii code).contains (fold ascii c)
  else c.toNat = code

def itemsAccept (flags : Flags) (items : List ClassItem) (c : Char) : Bool :=
  if !flags.ignoreCase then items.any (ClassItem.accepts flags.ascii c)
  else
    match items with
    | [.point code] => literalAccepts flags.ascii code c
    | items =>
        if items.any (ClassItem.hasCase flags.ascii) then
          items.any (ClassItem.acceptsFolded flags.ascii (fold flags.ascii c))
        else items.any (ClassItem.accepts flags.ascii c)

def CharClass.accepts (flags : Flags) (chars : CharClass) (c : Char) : Bool :=
  itemsAccept flags chars.items c != chars.negated

def atBoundary (ascii : Bool) (place : Place) : Bool :=
  let side (t : Text) : Bool :=
    match t with
    | [] => false
    | c :: _ => isWord ascii c
  side place.before != side place.after

/-- Neither a boundary nor the lack of one is found in an empty text. -/
def Anchor.holds (flags : Flags) (place : Place) : Anchor → Bool
  | .textStart => place.before.isEmpty
  | .textEnd => place.after.isEmpty
  | .lineStart =>
      place.before.isEmpty || (flags.multiline && place.before.head? == some '\n')
  | .lineEnd =>
      place.after.isEmpty || place.after == ['\n'] ||
        (flags.multiline && place.after.head? == some '\n')
  | .boundary => !place.isEmptyText && atBoundary flags.ascii place
  | .insideWord => !place.isEmptyText && !atBoundary flags.ascii place

def afterCopy? (flags : Flags) : (copy : Text) → Text → Option Nat
  | [], _ => some 0
  | _ :: _, [] => none
  | a :: copy, b :: t =>
      let same :=
        if flags.ignoreCase then fold flags.ascii a == fold flags.ascii b else a == b
      if same then (afterCopy? flags copy t).map (· + 1) else none

abbrev Rest := Place → Option Place

/-- One round of a repetition, in front of a continuation. -/
abbrev Round := Rest → Place → Option Place

def times (round : Round) : Nat → Round
  | 0, rest, place => rest place
  | n + 1, rest, place => round (times round n rest) place

def roomLeft : Option Nat → Option Nat
  | none => none
  | some n => some (n - 1)

/-- As many rounds as possible, fewer if the rest asks for it. -/
def asMany (round : Round) :
    (fuel : Nat) → (room : Option Nat) → (last : Option Nat) → Rest → Place → Option Place
  | 0, _, _, rest, place => rest place
  | fuel + 1, room, last, rest, place =>
      if room = some 0 || last = some place.position then rest place
      else
        match round (asMany round fuel (roomLeft room) (some place.position) rest) place with
        | some found => some found
        | none => rest place

def asFew (round : Round) :
    (fuel : Nat) → (room : Option Nat) → (last : Option Nat) → Rest → Place → Option Place
  | 0, _, _, rest, place => rest place
  | fuel + 1, room, last, rest, place =>
      match rest place with
      | some found => some found
      | none =>
          if room = some 0 || last = some place.position then none
          else round (asFew round fuel (roomLeft room) (some place.position) rest) place

/-- Rounds that are never given back: first the required ones, each for itself. -/
def required (round : Round) : Nat → Place → Option Place
  | 0, place => some place
  | n + 1, place =>
      match round some place with
      | none => none
      | some next => required round n next

def furthest (round : Round) : (fuel : Nat) → (room : Option Nat) → Place → Place
  | 0, _, place => place
  | fuel + 1, room, place =>
      if room = some 0 then place
      else
        match round some place with
        | none => place
        | some next =>
            if next.position = place.position then next
            else furthest round fuel (roomLeft room) next

def Node.run : Node → Flags → Round
  | .empty, _, rest, place => rest place
  | .any, flags, rest, place =>
      match place.after with
      | [] => none
      | c :: after => if flags.dotAll || c != '\n' then rest (place.step c after) else none
  | .oneOf chars, flags, rest, place =>
      match place.after with
      | [] => none
      | c :: after => if chars.accepts flags c then rest (place.step c after) else none
  | .anchor kind, flags, rest, place => if kind.holds flags place then rest place else none
  | .sequence first second, flags, rest, place =>
      first.run flags (second.run flags rest) place
  | .choice first second, flags, rest, place =>
      match first.run flags rest place with
      | some found => some found
      | none => second.run flags rest place
  | .repetition .greedy least most body, flags, rest, place =>
      times (body.run flags) least
        (fun place => asMany (body.run flags) (place.after.length + 2)
          (most.map (· - least)) none rest place) place
  | .repetition .reluctant least most body, flags, rest, place =>
      times (body.run flags) least
        (fun place => asFew (body.run flags) (place.after.length + 2)
          (most.map (· - least)) none rest place) place
  | .repetition .possessive least most body, flags, rest, place =>
      match required (body.run flags) least place with
      | none => none
      | some place =>
          rest (furthest (body.run flags) (place.after.length + 2) (most.map (· - least)) place)
  | .capture group body, flags, rest, place =>
      body.run flags (fun found =>
        rest { found with
          groups := (group, place.after.take (found.position - place.position)) :: found.groups })
        place
  | .scoped on off body, flags, rest, place => body.run (flags.adjust on off) rest place
  | .atomic body, flags, rest, place =>
      match body.run flags some place with
      | none => none
      | some found => rest found
  | .lookAhead negated body, flags, rest, place =>
      match body.run flags some place with
      | none => if negated then rest place else none
      | some found => if negated then none else rest { place with groups := found.groups }
  | .lookBehind negated body, flags, rest, place =>
      let width := body.width.least
      if place.position < width then if negated then rest place else none
      else
        match body.run flags some (place.back width) with
        | none => if negated then rest place else none
        | some found => if negated then none else rest { place with groups := found.groups }
  | .backReference group _, flags, rest, place =>
      match place.groups.lookup group with
      | none => none
      | some copy =>
          match afterCopy? flags copy place.after with
          | none => none
          | some count => rest (place.forward count)
  | .conditional group yes no, flags, rest, place =>
      if (place.groups.lookup group).isSome then yes.run flags rest place
      else no.run flags rest place

def searchFrom (node : Node) (flags : Flags) (position : Nat) (before : Text) : Text → Bool
  | [] => (node.run flags some ⟨position, before, [], []⟩).isSome
  | c :: after =>
      (node.run flags some ⟨position, before, c :: after, []⟩).isSome ||
        searchFrom node flags (position + 1) (c :: before) after

end Restatement.Pattern
