import Restatement.Text.Quoted

/-!
Why a pattern is refused, and the words for it.
-/

namespace Restatement.Pattern

inductive Reason where
  | danglingEscape
  | badEscape (escape : Text)
  | incompleteEscape (escape : Text)
  | missingBrace
  | missingName (what : Text)
  | unterminatedName (terminator : Char)
  | undefinedCharacter (name : Text)
  | octalOutOfRange (escape : Text)
  | openGroup
  | sameLookbehindGroup
  | invalidGroup (group : Nat)
  | unterminatedSet
  | badRange (first last : Text)
  | repeatBounds
  | nothingToRepeat
  | multipleRepeat
  | unexpectedEnd
  | unknownExtension (extension : Text)
  | unterminatedComment
  | unterminatedGroup
  | unknownGroupName (name : Text)
  | badGroupName (name : Text)
  | badGroupNumber
  | tooManyBranches
  | misplacedFlags
  | unbalanced
  | redefinition (name : Text) (group first : Nat)
  | variableLookbehind
  | distantLookbehind
  | localeInline
  | alphabetsInline
  | missingFlagEnd
  | unknownFlag
  | missingFlag
  | missingColon
  | globalOn
  | globalOff
  | alphabetOff
  | onAndOff
  | templateOperator (name : Text)
  deriving DecidableEq, Repr

def Reason.message : Reason → Text
  | .danglingEscape => "bad escape (end of pattern)".toList
  | .badEscape escape => "bad escape ".toList ++ escape
  | .incompleteEscape escape => "incomplete escape ".toList ++ escape
  | .missingBrace => "missing \x7b".toList
  | .missingName what => "missing ".toList ++ what
  | .unterminatedName terminator => "missing ".toList ++ [terminator] ++ ", unterminated name".toList
  | .undefinedCharacter name => "undefined character name ".toList ++ Text.quoted name
  | .octalOutOfRange escape =>
      "octal escape value ".toList ++ escape ++ " outside of range 0-0o377".toList
  | .openGroup => "cannot refer to an open group".toList
  | .sameLookbehindGroup =>
      "cannot refer to group defined in the same lookbehind subpattern".toList
  | .invalidGroup group => "invalid group reference ".toList ++ Text.ofNat group
  | .unterminatedSet => "unterminated character set".toList
  | .badRange first last => "bad character range ".toList ++ first ++ ['-'] ++ last
  | .repeatBounds => "min repeat greater than max repeat".toList
  | .nothingToRepeat => "nothing to repeat".toList
  | .multipleRepeat => "multiple repeat".toList
  | .unexpectedEnd => "unexpected end of pattern".toList
  | .unknownExtension extension => "unknown extension ?".toList ++ extension
  | .unterminatedComment => "missing ), unterminated comment".toList
  | .unterminatedGroup => "missing ), unterminated subpattern".toList
  | .unknownGroupName name => "unknown group name ".toList ++ Text.quoted name
  | .badGroupName name => "bad character in group name ".toList ++ Text.quoted name
  | .badGroupNumber => "bad group number".toList
  | .tooManyBranches => "conditional backref with more than two branches".toList
  | .misplacedFlags => "global flags not at the start of the expression".toList
  | .unbalanced => "unbalanced parenthesis".toList
  | .redefinition name group first =>
      "redefinition of group name ".toList ++ Text.quoted name ++ " as group ".toList ++
        Text.ofNat group ++ "; was group ".toList ++ Text.ofNat first
  | .variableLookbehind => "look-behind requires fixed-width pattern".toList
  | .distantLookbehind => "looks too much behind".toList
  | .localeInline => "bad inline flags: cannot use 'L' flag with a str pattern".toList
  | .alphabetsInline => "bad inline flags: flags 'a', 'u' and 'L' are incompatible".toList
  | .missingFlagEnd => "missing -, : or )".toList
  | .unknownFlag => "unknown flag".toList
  | .missingFlag => "missing flag".toList
  | .missingColon => "missing :".toList
  | .globalOn => "bad inline flags: cannot turn on global flag".toList
  | .globalOff => "bad inline flags: cannot turn off global flag".toList
  | .alphabetOff => "bad inline flags: cannot turn off flags 'a', 'u' and 'L'".toList
  | .onAndOff => "bad inline flags: flag turned on and off".toList
  | .templateOperator name => "internal: unsupported template operator ".toList ++ name

/-- A refusal; faults of the pattern as a whole have no position. -/
structure Fault where
  reason : Reason
  position : Option Nat
  deriving DecidableEq, Repr

def lineAndColumn (pattern : Text) (position : Nat) : Nat × Nat :=
  let front := pattern.take position
  (front.count '\n' + 1, (front.reverse.takeWhile (· != '\n')).length + 1)

def Fault.message (pattern : Text) (fault : Fault) : Text :=
  match fault.position with
  | none => fault.reason.message
  | some position =>
      let (line, column) := lineAndColumn pattern position
      fault.reason.message ++ " at position ".toList ++ Text.ofNat position ++
        if pattern.contains '\n' then
          " (line ".toList ++ Text.ofNat line ++ ", column ".toList ++ Text.ofNat column ++ [')']
        else []

/-- Limits of the engine; none of them is a fault of the pattern's text. -/
inductive Limit where
  | tooManyRepetitions
  | longNumeral (digits : Nat)
  | codeTooLarge
  | localeFlag
  | alphabetConflict
  deriving DecidableEq, Repr

def Limit.message : Limit → Text
  | .tooManyRepetitions => "the repetition number is too large"
  | .longNumeral digits =>
      "Exceeds the limit (4300 digits) for integer string conversion: value has " ++
        Text.ofNat digits ++ " digits; use sys.set_int_max_str_digits() to increase the limit"
  | .codeTooLarge => "Python int too large to convert to C int"
  | .localeFlag => "cannot use LOCALE flag with a str pattern"
  | .alphabetConflict => "ASCII and UNICODE flags are incompatible"

inductive Failure where
  | invalid (fault : Fault)
  | limit (limit : Limit)
  deriving DecidableEq, Repr

end Restatement.Pattern
