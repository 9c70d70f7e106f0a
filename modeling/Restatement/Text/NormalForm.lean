import Restatement.Text.Case

/-!
The normal form in which comments and phrases are compared: lower case, everything but
`a`-`z`, `0`-`9` and blanks masked by a space, runs of blanks made one space, ends trimmed.
-/

namespace Restatement.Text

def isPlain (c : Char) : Bool := ('a' ≤ c && c ≤ 'z') || ('0' ≤ c && c ≤ '9')

def mask (c : Char) : Char := if isPlain c || isBlank c then c else ' '

def collapseBlanks : Text → Text
  | [] => []
  | c :: rest =>
      if isBlank c then
        match rest with
        | [] => [' ']
        | d :: _ => if isBlank d then collapseBlanks rest else ' ' :: collapseBlanks rest
      else c :: collapseBlanks rest

def normalize (t : Text) : Text := trim (collapseBlanks ((lower t).map mask))

end Restatement.Text
