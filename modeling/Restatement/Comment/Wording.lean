import Restatement.Text.Case
import Restatement.Text.Digit
import Restatement.Text.Word

/-!
Forms of wording that set a comment apart: tags, action items, links, notices and directives.
-/

namespace Restatement.Wording

def dropStar : Text → Text
  | '*' :: rest => rest
  | rest => rest

/-- The text after the decoration of a block comment line: blanks, a star, blanks. -/
def afterDecoration (t : Text) : Text := Text.trimStart (dropStar (Text.trimStart t))

def opensWith (words : List Text) (t : Text) : Bool :=
  words.any fun word => (Text.afterIgnoringCase? word t).isSome

def endsWord : Text → Bool
  | [] => true
  | c :: _ => !Text.isWordChar c

def opensWithWhole (words : List Text) (t : Text) : Bool :=
  words.any fun word =>
    match Text.afterIgnoringCase? word t with
    | none => false
    | some rest => endsWord rest

/-- Whether the word, in any case, stands alone in a text that goes on inside of a word or not. -/
def mentionsFrom (word : Text) (insideWord : Bool) : Text → Bool
  | [] => false
  | c :: rest =>
      (!insideWord && opensWithWhole [word] (c :: rest)) ||
        mentionsFrom word (Text.isWordChar c) rest

def mentions (word t : Text) : Bool := mentionsFrom word false t

def isTagged (t : Text) : Bool :=
  match afterDecoration t with
  | '@' :: c :: _ => Text.isWordChar c
  | _ => false

def actionWords : List Text := ["todo", "fixme", "note", "hack", "xxx", "bug"]

def isActionItem (t : Text) : Bool := opensWithWhole actionWords (Text.trimStart t)

def hasLink (t : Text) : Bool := Text.occursIn "http://" t || Text.occursIn "https://" t

def hasCodeSpan : Text → Bool
  | [] => false
  | c :: rest =>
      let inside := rest.takeWhile (· != '`')
      (c == '`' && !inside.isEmpty && inside.length < rest.length) || hasCodeSpan rest

def opensWithNotice (t : Text) : Bool := opensWith ["copyright", "license"] (afterDecoration t)

def isPathLike : Text → Bool
  | c :: _ => c == '.' || c == '/' || c == '\\'
  | [] => false

def opensWithYear (t : Text) : Bool :=
  match Text.afterIgnoringCase? "(c)" (afterDecoration t) with
  | none => false
  | some rest =>
      let year := (Text.trimStart rest).take 4
      year.length == 4 && year.all Text.isDigit

def documentationTags : List Text :=
  ["@file", "@overview", "@module", "@package", "@namespace", "@api", "@public", "@private",
    "@protected", "@typedef", "@interface", "@class", "@constructor"]

def isDocumentation (t : Text) : Bool :=
  isTagged t || opensWith documentationTags (afterDecoration t) || opensWithNotice t ||
    opensWithYear t || opensWith ["all rights reserved"] (afterDecoration t)

def introductions : List Text := ["if", "when", "because", "since", "for", "to"]

def isIntroduced (t : Text) : Bool :=
  introductions.any fun word =>
    match Text.afterIgnoringCase? word (Text.trimStart t) with
    | some (c :: _) => Text.isBlank c
    | _ => false

def isRemark (t : Text) : Bool :=
  isActionItem t || opensWith ["eslint", "@ts-", "prettier-"] (Text.trimStart t) || isIntroduced t

def directives : List Text :=
  ["eslint", "jshint", "jslint", "istanbul", "prettier-", "@ts-", "noqa", "type:", "pylint:",
    "mypy:", "pyright:", "fmt:", "isort:", "pragma", "flake8", "ruff:", "-*-", "!"]

def isDirective (t : Text) : Bool := opensWith directives (Text.trimStart t)

def isFileHeader (t : Text) : Bool := opensWith ["@file"] (afterDecoration t)

def minimumLength : Nat := 3

def reasons : List Text :=
  ["because", "since", "due to", "workaround", "bug", "issue", "fix for", "needed for",
    "required for", "necessary", "important", "note:", "caveat", "warning", "caution",
    "intentional", "deliberately", "performance", "optimization", "compatibility", "legacy",
    "deprecated", "temporary", "business", "rule", "requirement"]

def explanations : List Text :=
  reasons ++
    ["as a result", "therefore", "fixes", "hack", "must", "should", "critical", "crucial",
      "essential", "beware", "careful", "purposely", "on purpose", "optimized", "faster", "slower",
      "backwards compatible", "polyfill", "temp", "until", "when", "spec", "safety", "security",
      "prevent", "avoid", "protect", "edge case", "corner case", "special case", "exception",
      "see", "refer to", "according to"].map String.toList

def uses (phrases : List Text) (t : Text) : Bool :=
  let lowered := Text.lower t
  phrases.any fun phrase => Text.occursIn phrase lowered

/-- Wording that is never held against a comment. -/
def isExempt (t : Text) : Bool :=
  t.length < minimumLength || isTagged t || isActionItem t || hasLink t ||
    ("eslint" : Text).isPrefixOf (Text.trimStart t) || hasCodeSpan t || opensWithNotice t ||
    isPathLike t || uses reasons t

end Restatement.Wording
