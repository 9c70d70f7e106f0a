import Restatement.Pattern.Escape
import Restatement.Text.Identifier
import Restatement.Text.Numeral
import Restatement.Text.Word

/-!
Reading patterns. The reader keeps the groups that are still open on a stack, so it is one loop over
the tokens.
-/

namespace Restatement.Pattern

variable [CharacterNames]

inductive FrameKind where
  | capture (group : Nat)
  | scoped (on off : Flags)
  | atomic
  | lookAhead (negated : Bool)
  | lookBehind (negated : Bool) (outer : Option Nat)
  | condition (group : Nat) (yes : Option Node)

structure Frame where
  kind : FrameKind
  start : Nat
  items : List Node
  alternatives : List Node
  verbose : Bool

/-- The reader's state. `items` and `alternatives` are in reverse; `groups` holds the widths of
the groups opened so far, none while a group is open; `behind` is the number of groups at the
entry of the outermost look-behind. -/
structure Progress where
  cursor : Cursor
  items : List Node := []
  alternatives : List Node := []
  verbose : Bool
  frames : List Frame := []
  flags : Flags
  groups : List (Option Width) := []
  names : List (Text × Nat) := []
  behind : Option Nat := none
  references : List (Nat × Nat) := []

namespace Progress

def groupCount (p : Progress) : Nat := p.groups.length + 1

def closedWidth? (p : Progress) (group : Nat) : Option Width :=
  if group = 0 then none else (p.groups[group - 1]?).join

def push (p : Progress) (node : Node) : Progress := { p with items := node :: p.items }

def itemsNode (p : Progress) : Node := Node.ofSequence p.items.reverse

def body (p : Progress) : Node := p.alternatives.foldl (fun node first => .choice first node) p.itemsNode

def enter (p : Progress) (kind : FrameKind) (start : Nat) (verbose : Bool) : Progress :=
  { p with
    frames := ⟨kind, start, p.items, p.alternatives, p.verbose⟩ :: p.frames
    items := []
    alternatives := []
    verbose := verbose }

def checkLookbehind (p : Progress) (group : Nat) : Except Failure PUnit :=
  match p.behind with
  | none => .ok ⟨⟩
  | some entry =>
      if (p.closedWidth? group).isNone then Cursor.refuse .openGroup p.cursor.position
      else if entry ≤ group then Cursor.refuse .sameLookbehindGroup p.cursor.position
      else .ok ⟨⟩

end Progress

def readNumbered (p : Progress) (c : Char) : Except Failure Progress := do
  let (second, cursor) ← p.cursor.takeWhile isDecimal 1
  let p := { p with cursor }
  let (third, cursor) ←
    if isOctal c && second.any isOctal then cursor.takeWhile isOctal 1 else .ok ([], cursor)
  match third with
  | [_] =>
      let escape := ['\\', c] ++ second ++ third
      let code := numeral 8 (c :: second ++ third)
      if 0o377 < code then
        Cursor.refuse (.octalOutOfRange escape) (cursor.position - escape.length)
      else return { p with cursor }.push (.literal code)
  | _ =>
      let group := numeral 10 (c :: second)
      let size := 2 + second.length
      if group < p.groupCount then
        match p.closedWidth? group with
        | none => Cursor.refuse .openGroup (p.cursor.position - size)
        | some width => do
            p.checkLookbehind group
            return p.push (.backReference group width)
      else Cursor.refuse (.invalidGroup group) (p.cursor.position - (size - 1))

def readEscape (p : Progress) (c : Char) : Except Failure Progress :=
  match anchorEscape? c, categoryEscape? c, controlEscape? c, readCodeEscape? c p.cursor with
  | some anchor, _, _, _ => .ok (p.push (.anchor anchor))
  | none, some item, _, _ => .ok (p.push (.oneOf ⟨false, [item]⟩))
  | none, none, some code, _ => .ok (p.push (.literal code))
  | none, none, none, some result => do
      let (code, cursor) ← result
      return { p with cursor }.push (.literal code)
  | none, none, none, none =>
      if c = '0' then do
        let (digits, cursor) ← p.cursor.takeWhile isOctal 2
        return { p with cursor }.push (.literal (numeral 8 digits))
      else if isDecimal c then readNumbered p c
      else do
        let (code, cursor) ← plainEscape c p.cursor
        return { p with cursor }.push (.literal code)

def readMember (token : Token) (cursor : Cursor) : Except Failure (ClassItem × Cursor) :=
  match token with
  | .escape c => readClassEscape c cursor
  | .char c => .ok (.point c.toNat, cursor)
  | .dangling => .ok (.point 92, cursor)

/-- Reads the members of a set that was opened at `start`; `items` is in reverse. -/
def readSet (start : Nat) :
    (fuel : Nat) → (items : List ClassItem) → Cursor → Except Failure (List ClassItem × Cursor)
  | 0, _, _ => Cursor.refuse .unterminatedSet start
  | fuel + 1, items, cursor =>
      match cursor.next? with
      | none => Cursor.refuse .unterminatedSet start
      | some token => do
          let cursor ← cursor.advance
          if token = .char ']' && !items.isEmpty then return (items.reverse, cursor)
          else
            let (item, cursor) ← readMember token cursor
            let (dash, cursor) ← cursor.skip '-'
            if !dash then readSet start fuel (item :: items) cursor
            else
              match cursor.next? with
              | none => Cursor.refuse .unterminatedSet start
              | some last => do
                  let cursor ← cursor.advance
                  if last = .char ']' then
                    return ((.point '-'.toNat :: item :: items).reverse, cursor)
                  else
                    let (other, cursor) ← readMember last cursor
                    let size := token.text.length + 1 + last.text.length
                    match item, other with
                    | .point low, .point high =>
                        if high < low then
                          Cursor.refuse (.badRange token.text last.text) (cursor.position - size)
                        else readSet start fuel (.range low high :: items) cursor
                    | _, _ =>
                        Cursor.refuse (.badRange token.text last.text) (cursor.position - size)

def readClass (p : Progress) : Except Failure Progress := do
  let start := p.cursor.position - 1
  let (negated, cursor) ← p.cursor.skip '^'
  let (items, cursor) ← readSet start (cursor.tokens.length + 1) [] cursor
  return { p with cursor }.push (.oneOf ⟨negated, items.eraseDups⟩)

def readBound (digits : Text) : Except Failure Nat :=
  if Text.digitLimit < digits.length then .error (.limit (.longNumeral digits.length))
  else if Width.repeatLimit ≤ numeral 10 digits then .error (.limit .tooManyRepetitions)
  else .ok (numeral 10 digits)

/-- The bounds of a counted repetition after its opening brace, or nothing when the brace is an
ordinary character. -/
def readBounds (cursor : Cursor) :
    Except Failure (Option (Nat × Option Nat × Cursor)) := do
  let here := cursor.position
  let fuel := cursor.tokens.length
  let (low, cursor) ← cursor.takeWhile isDecimal fuel
  let (comma, cursor) ← cursor.skip ','
  let (high, cursor) ← if comma then cursor.takeWhile isDecimal fuel else .ok (low, cursor)
  let (closed, cursor) ← cursor.skip '}'
  if !closed then return none
  else
    let least ← readBound low
    if high.isEmpty then return some (least, none, cursor)
    else
      let most ← readBound high
      if most < least then Cursor.refuse .repeatBounds here
      else return some (least, some most, cursor)

def repeatLast (p : Progress) (here least : Nat) (most : Option Nat) :
    Except Failure Progress := do
  match p.items with
  | [] => Cursor.refuse .nothingToRepeat (here - 1)
  | .anchor _ :: _ => Cursor.refuse .nothingToRepeat (here - 1)
  | .repetition _ _ _ _ :: _ => Cursor.refuse .multipleRepeat (here - 1)
  | item :: items =>
      let (reluctant, cursor) ← p.cursor.skip '?'
      let (possessive, cursor) ← if reluctant then .ok (false, cursor) else cursor.skip '+'
      let greed : Greed :=
        if reluctant then .reluctant else if possessive then .possessive else .greedy
      return { p with cursor, items := .repetition greed least most item :: items }

def readRepetition (p : Progress) (sign : Char) : Except Failure Progress := do
  let here := p.cursor.position
  match sign with
  | '?' => repeatLast p here 0 (some 1)
  | '*' => repeatLast p here 0 none
  | '+' => repeatLast p here 1 none
  | _ =>
      if p.cursor.next? = some (.char '}') then return p.push (.literal '{'.toNat)
      else
        match ← readBounds p.cursor with
        | none => return p.push (.literal '{'.toNat)
        | some (least, most, cursor) => repeatLast { p with cursor } here least most

inductive FlagChange where
  | wholePattern (on : Flags)
  | group (on off : Flags)

def flagFault (token : Token) (missing : Reason) : Reason :=
  match token with
  | .char c => if Text.isWordChar c && !Text.isDigit c && c != '_' then .unknownFlag else missing
  | _ => missing

def readFlagsOff : (fuel : Nat) → (off : Flags) → Token → Cursor → Except Failure (Flags × Cursor)
  | 0, _, _, cursor => Cursor.refuse .missingColon cursor.position
  | fuel + 1, off, token, cursor =>
      let flag :=
        match token with
        | .char c => Flags.ofLetter? c
        | _ => none
      match flag with
      | none =>
          if token = .char ':' && off != .cleared then .ok (off, cursor)
          else
            let missing := if off = .cleared then Reason.missingFlag else .missingColon
            Cursor.refuse (flagFault token missing) (cursor.position - token.text.length)
      | some flag =>
          if flag.alphabet != .cleared then Cursor.refuse .alphabetOff cursor.position
          else
            match cursor.next? with
            | none => Cursor.refuse .missingColon cursor.position
            | some next => do
                let cursor ← cursor.advance
                readFlagsOff fuel (off.union flag) next cursor

def readFlagsOn : (fuel : Nat) → (on : Flags) → (letter : Char) → Cursor →
    Except Failure (Flags × Char × Cursor)
  | 0, _, _, cursor => Cursor.refuse .missingFlagEnd cursor.position
  | fuel + 1, on, letter, cursor =>
      match Flags.ofLetter? letter with
      | none => Cursor.refuse .missingFlagEnd cursor.position
      | some flag =>
          if letter = 'L' then Cursor.refuse .localeInline cursor.position
          else
            let on := on.union flag
            if flag.alphabet != .cleared && on.alphabet != flag then
              Cursor.refuse .alphabetsInline cursor.position
            else
              match cursor.next? with
              | none => Cursor.refuse .missingFlagEnd cursor.position
              | some token => do
                  let cursor ← cursor.advance
                  match token with
                  | .char c =>
                      if c = ')' || c = '-' || c = ':' then return (on, c, cursor)
                      else if (Flags.ofLetter? c).isSome then readFlagsOn fuel on c cursor
                      else
                        Cursor.refuse (flagFault token .missingFlagEnd)
                          (cursor.position - token.text.length)
                  | token =>
                      Cursor.refuse .missingFlagEnd (cursor.position - token.text.length)

def readFlags (letter : Char) (cursor : Cursor) : Except Failure (FlagChange × Cursor) := do
  let fuel := cursor.tokens.length + 1
  let (on, delimiter, cursor) ←
    if letter = '-' then .ok (Flags.cleared, '-', cursor) else readFlagsOn fuel .cleared letter cursor
  if delimiter = ')' then return (.wholePattern on, cursor)
  else if on.template then Cursor.refuse .globalOn (cursor.position - 1)
  else
    let (off, cursor) ←
      if delimiter = '-' then
        match cursor.next? with
        | none => Cursor.refuse .missingFlag cursor.position
        | some token => do
            let cursor ← cursor.advance
            readFlagsOff fuel .cleared token cursor
      else .ok (Flags.cleared, cursor)
    if off.template then Cursor.refuse .globalOff (cursor.position - 1)
    else if on.meets off then Cursor.refuse .onAndOff (cursor.position - 1)
    else return (.group on off, cursor)

def openCapture (p : Progress) (start : Nat) (name : Option Text) : Except Failure Progress :=
  let group := p.groupCount
  let opened := { p with groups := p.groups ++ [none] }
  match name with
  | none => .ok (opened.enter (.capture group) start p.verbose)
  | some name =>
      match p.names.lookup name with
      | some first =>
          Cursor.refuse (.redefinition name group first)
            (p.cursor.position - (name.length + 1))
      | none =>
          .ok ({ opened with names := (name, group) :: p.names }.enter (.capture group) start
            p.verbose)

def checkName (name : Text) (cursor : Cursor) : Except Failure PUnit :=
  if Text.isIdentifier name then .ok ⟨⟩
  else Cursor.refuse (.badGroupName name) (cursor.position - (name.length + 1))

def readNamedGroup (p : Progress) (start : Nat) : Except Failure Progress := do
  let (opened, cursor) ← p.cursor.skip '<'
  if opened then
    let (name, cursor) ← cursor.name '>' "group name"
    checkName name cursor
    openCapture { p with cursor } start (some name)
  else
    let (reference, cursor) ← cursor.skip '='
    if reference then
      let (name, cursor) ← cursor.name ')' "group name"
      checkName name cursor
      let here := cursor.position - (name.length + 1)
      match p.names.lookup name with
      | none => Cursor.refuse (.unknownGroupName name) here
      | some group =>
          match p.closedWidth? group with
          | none => Cursor.refuse .openGroup here
          | some width => do
              let p := { p with cursor }
              p.checkLookbehind group
              return p.push (.backReference group width)
    else
      match cursor.next? with
      | none => Cursor.refuse .unexpectedEnd cursor.position
      | some token => do
          let cursor ← cursor.advance
          Cursor.refuse (.unknownExtension ('P' :: token.text))
            (cursor.position - (token.text.length + 2))

def groupLimit : Nat := 1073741823

def readConditional (p : Progress) (start : Nat) : Except Failure Progress := do
  let (name, cursor) ← p.cursor.name ')' "group name"
  let here := cursor.position - (name.length + 1)
  let (group, references) ←
    if Text.isIdentifier name then
      match p.names.lookup name with
      | none => Cursor.refuse (.unknownGroupName name) here
      | some group => .ok (group, p.references)
    else
      match Text.readInteger? name with
      | some (.ofNat 0) => Cursor.refuse .badGroupNumber here
      | some (.ofNat group) =>
          if groupLimit ≤ group then Cursor.refuse (.invalidGroup group) here
          else .ok (group, if (p.references.lookup group).isSome then p.references
            else p.references ++ [(group, here)])
      | _ => Cursor.refuse (.badGroupName name) here
  let p := { p with cursor, references }
  p.checkLookbehind group
  return p.enter (.condition group none) start p.verbose

def skipComment (start : Nat) : (fuel : Nat) → Cursor → Except Failure Cursor
  | 0, _ => Cursor.refuse .unterminatedComment start
  | fuel + 1, cursor =>
      match cursor.next? with
      | none => Cursor.refuse .unterminatedComment start
      | some token => do
          let cursor ← cursor.advance
          if token = .char ')' then return cursor else skipComment start fuel cursor

def readLookBehind (p : Progress) (start : Nat) : Except Failure Progress :=
  match p.cursor.next? with
  | none => Cursor.refuse .unexpectedEnd p.cursor.position
  | some token => do
      let cursor ← p.cursor.advance
      if token = .char '=' || token = .char '!' then
        let opened :=
          { p with cursor }.enter (.lookBehind (token == Token.char '!') p.behind) start p.verbose
        return { opened with behind := some (p.behind.getD p.groupCount) }
      else
        Cursor.refuse (.unknownExtension ('<' :: token.text))
          (cursor.position - (token.text.length + 2))

def readFlagGroup (p : Progress) (start : Nat) (letter : Char) : Except Failure Progress := do
  let (change, cursor) ← readFlags letter p.cursor
  let p := { p with cursor }
  match change with
  | .wholePattern on =>
      if !p.frames.isEmpty || !p.alternatives.isEmpty || !p.items.isEmpty then
        Cursor.refuse .misplacedFlags start
      else
        let flags := p.flags.union on
        return { p with flags, verbose := flags.verbose }
  | .group on off =>
      return p.enter (.scoped on off) start ((p.verbose || on.verbose) && !off.verbose)

def readGroup (p : Progress) : Except Failure Progress := do
  let start := p.cursor.position - 1
  let (extended, cursor) ← p.cursor.skip '?'
  let p := { p with cursor }
  if !extended then openCapture p start none
  else
    match cursor.next? with
    | none => Cursor.refuse .unexpectedEnd cursor.position
    | some token => do
        let cursor ← cursor.advance
        let p := { p with cursor }
        let unknown : Except Failure Progress :=
          Cursor.refuse (.unknownExtension token.text) (cursor.position - (token.text.length + 1))
        match token with
        | .char 'P' => readNamedGroup p start
        | .char ':' => return p.enter (.scoped .cleared .cleared) start p.verbose
        | .char '#' => do
            let cursor ← skipComment start (cursor.tokens.length + 1) cursor
            return { p with cursor }
        | .char '=' => return p.enter (.lookAhead false) start p.verbose
        | .char '!' => return p.enter (.lookAhead true) start p.verbose
        | .char '<' => readLookBehind p start
        | .char '(' => readConditional p start
        | .char '>' => return p.enter .atomic start p.verbose
        | .char c =>
            if c = '-' || (Flags.ofLetter? c).isSome then readFlagGroup p start c else unknown
        | _ => unknown

def closeGroup (p : Progress) (frame : Frame) (frames : List Frame) : Progress :=
  let outer :=
    { p with
      frames := frames
      items := frame.items
      alternatives := frame.alternatives
      verbose := frame.verbose }
  match frame.kind with
  | .capture group =>
      { outer with groups := p.groups.set (group - 1) (some p.body.width) }.push
        (.capture group p.body)
  | .scoped on off => outer.push (.scoped on off p.body)
  | .atomic => outer.push (.atomic p.body)
  | .lookAhead negated => outer.push (.lookAhead negated p.body)
  | .lookBehind negated behind => { outer with behind }.push (.lookBehind negated p.body)
  | .condition group none => outer.push (.conditional group p.itemsNode .empty)
  | .condition group (some yes) => outer.push (.conditional group yes p.itemsNode)

def readBar (p : Progress) (here : Nat) : Except Failure Progress :=
  match p.frames with
  | frame :: frames =>
      match frame.kind with
      | .condition group none =>
          .ok { p with
            frames := { frame with kind := .condition group (some p.itemsNode) } :: frames
            items := [] }
      | .condition _ (some _) => Cursor.refuse .tooManyBranches here
      | _ => .ok { p with alternatives := p.itemsNode :: p.alternatives, items := [] }
  | [] =>
      .ok { p with
        alternatives := p.itemsNode :: p.alternatives
        items := []
        verbose := p.flags.verbose }

def isVerboseSpace (c : Char) : Bool :=
  c = ' ' || (9 ≤ c.toNat && c.toNat ≤ 13)

def skipLine : (fuel : Nat) → Cursor → Except Failure Cursor
  | 0, cursor => .ok cursor
  | fuel + 1, cursor =>
      match cursor.next? with
      | none => .ok cursor
      | some token => do
          let cursor ← cursor.advance
          if token = .char '\n' then return cursor else skipLine fuel cursor

def readToken (p : Progress) (token : Token) : Except Failure Progress :=
  match token with
  | .escape c => readEscape p c
  | .dangling => .ok p
  | .char c =>
      if p.verbose && isVerboseSpace c then .ok p
      else if p.verbose && c = '#' then do
        let cursor ← skipLine (p.cursor.tokens.length + 1) p.cursor
        return { p with cursor }
      else
        match c with
        | '[' => readClass p
        | '(' => readGroup p
        | '.' => .ok (p.push .any)
        | '^' => .ok (p.push (.anchor .lineStart))
        | '$' => .ok (p.push (.anchor .lineEnd))
        | '?' | '*' | '+' | '{' => readRepetition p c
        | c => .ok (p.push (.literal c.toNat))

def settleFlags (flags : Flags) : Except Failure Flags :=
  if flags.locale then .error (.limit .localeFlag)
  else if !flags.ascii then .ok { flags with unicode := true }
  else if flags.unicode then .error (.limit .alphabetConflict)
  else .ok flags

def finish (p : Progress) : Except Failure (Node × Flags) :=
  match p.frames with
  | frame :: _ => Cursor.refuse .unterminatedGroup frame.start
  | [] => do
      let flags ← settleFlags p.flags
      match p.references.find? fun (group, _) => p.groupCount ≤ group with
      | some (group, position) => Cursor.refuse (.invalidGroup group) position
      | none => return (p.body, flags)

/-- Reads the remaining tokens. Each round passes at least one, so as much fuel as there are tokens
is enough. -/
def readAll : (fuel : Nat) → Progress → Except Failure (Node × Flags)
  | 0, p => finish p
  | fuel + 1, p =>
      match p.cursor.next? with
      | none => finish p
      | some (.char ')') =>
          match p.frames with
          | [] => do
              let _ ← settleFlags p.flags
              Cursor.refuse .unbalanced p.cursor.position
          | frame :: frames => do
              let cursor ← p.cursor.advance
              readAll fuel (closeGroup { p with cursor } frame frames)
      | some (.char '|') => do
          let here := p.cursor.position
          match readBar p here with
          | .error e => .error e
          | .ok p => do
              let cursor ← p.cursor.advance
              readAll fuel { p with cursor }
      | some token => do
          let cursor ← p.cursor.advance
          let p ← readToken { p with cursor } token
          readAll fuel p

/-- The first look-behind without a fixed width, or repetition under the template flag, in order
of appearance. -/
def widthFault? (flags : Flags) : Node → Option Reason
  | .sequence a b | .choice a b | .conditional _ a b => (widthFault? flags a).or (widthFault? flags b)
  | .repetition greed _ _ body =>
      if flags.template then
        some (.templateOperator (match greed with
          | .greedy => "MAX_REPEAT".toList
          | .reluctant => "MIN_REPEAT".toList
          | .possessive => "POSSESSIVE_REPEAT".toList))
      else widthFault? flags body
  | .capture _ body | .atomic body | .lookAhead _ body => widthFault? flags body
  | .scoped on off body => widthFault? (flags.adjust on off) body
  | .lookBehind _ body =>
      if Width.repeatLimit < body.width.least then some .distantLookbehind
      else if body.width.least != body.width.most then some .variableLookbehind
      else widthFault? flags body
  | _ => none

def parse (pattern : Text) (flags : Flags) : Except Failure (Node × Flags) := do
  let cursor ← Cursor.start pattern
  let p : Progress := { cursor, verbose := flags.verbose, flags }
  let (node, flags) ← readAll pattern.length p
  match widthFault? flags node with
  | some reason => .error (.invalid ⟨reason, none⟩)
  | none => return (node, flags)

end Restatement.Pattern
