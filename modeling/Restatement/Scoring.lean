import Restatement.Number.Binary64
import Restatement.Text.NormalForm

/-!
Whether a comment says no more than a gloss. Comment and gloss are compared in normal form; from
low to high sensitivity more is accepted.
-/

namespace Restatement

inductive Sensitivity where
  | low
  | medium
  | high
  deriving DecidableEq, Repr

def Sensitivity.name : Sensitivity → Text
  | .low => "low"
  | .medium => "medium"
  | .high => "high"

def Sensitivity.ofName? (name : Text) : Option Sensitivity :=
  [Sensitivity.low, .medium, .high].find? (·.name == name)

structure Thresholds where
  /-- A comment with more words than this is never obvious. -/
  maxCommentWords : Int := 8
  /-- What follows the gloss at the start of a comment must be shorter than this. -/
  remainderLimit : Int := 5
  /-- Only words longer than this count for overlap. -/
  minWordLength : Int := 2
  overlap : Binary64 := .ofDecimal 8 (-1)
  minOverlapWords : Int := 2
  highOverlap : Binary64 := .ofDecimal 6 (-1)
  /-- The share of the comment that a gloss inside of it must cover. -/
  highCoverage : Binary64 := .ofDecimal 5 (-1)
  messageLimit : Int := 50
  deriving DecidableEq, Repr

namespace Scoring

def longWords (thresholds : Thresholds) (t : Text) : List Text :=
  (Text.words t).filter fun word => thresholds.minWordLength < word.length

/-- The share of the gloss's long words that the comment has, if there are any. -/
def overlap? (thresholds : Thresholds) (comment gloss : Text) : Option Binary64 :=
  let glossWords := longWords thresholds gloss
  let commentWords := longWords thresholds comment
  if glossWords.isEmpty then none
  else
    some (.quotient (glossWords.countP commentWords.contains : Nat) glossWords.length)

def startsWithGloss (thresholds : Thresholds) (comment gloss : Text) : Bool :=
  gloss.isPrefixOf comment &&
    (Text.trim (comment.drop gloss.length)).length < thresholds.remainderLimit

def containsGloss (thresholds : Thresholds) (comment gloss : Text) : Bool :=
  Text.occursIn gloss comment &&
    (thresholds.highCoverage.scale comment.length).atMost (.ofInt gloss.length)

def overlapsGloss (thresholds : Thresholds) (comment gloss : Text) : Bool :=
  match overlap? thresholds comment gloss with
  | none => false
  | some share =>
      thresholds.overlap.atMost share &&
        thresholds.minOverlapWords ≤ (longWords thresholds gloss).length

def overlapsGlossLoosely (thresholds : Thresholds) (comment gloss : Text) : Bool :=
  match overlap? thresholds comment gloss with
  | none => false
  | some share => thresholds.highOverlap.atMost share

/-- Whether a comment restates a gloss, both in normal form. -/
def restates (thresholds : Thresholds) (sensitivity : Sensitivity) (comment gloss : Text) : Bool :=
  comment == gloss || startsWithGloss thresholds comment gloss ||
    (sensitivity == .high && containsGloss thresholds comment gloss) ||
    (sensitivity != .low && overlapsGloss thresholds comment gloss) ||
    (sensitivity == .high && overlapsGlossLoosely thresholds comment gloss)

end Scoring

def isObvious (thresholds : Thresholds) (sensitivity : Sensitivity) (comment : Text)
    (glosses : List Text) : Bool :=
  let comment := Text.normalize comment
  (Text.words comment).length ≤ thresholds.maxCommentWords &&
    (glosses.map Text.normalize).any fun gloss =>
      !gloss.isEmpty && Scoring.restates thresholds sensitivity comment gloss

/-- The verdict at a sensitivity given by name; nothing when there is no such sensitivity, unless
there are no glosses to compare with. -/
def isObviousAt? (thresholds : Thresholds) (sensitivity : Text) (comment : Text)
    (glosses : List Text) : Option Bool :=
  if glosses.isEmpty then some false
  else (Sensitivity.ofName? sensitivity).map fun s => isObvious thresholds s comment glosses

end Restatement
