import Restatement.Text.Basic

/-!
The content of a literal: a string without its quotes, anything else as it stands.
-/

namespace Restatement.Literal

def isLetter (c : Char) : Bool := ('a' ≤ c && c ≤ 'z') || ('A' ≤ c && c ≤ 'Z')

def quotes : List Text := ["\"\"\"", "'''", "\"", "'", "`"]

def beforeEnd? (quote t : Text) : Option Text :=
  if quote.isSuffixOf t then some (t.take (t.length - quote.length)) else none

/-- What stands before a closing mark at the end of the text or before its last line end. -/
def body? (quote t : Text) : Option Text :=
  (beforeEnd? quote t).or
    (if t.getLast? = some '\n' then beforeEnd? quote t.dropLast else none)

def enclosed? (quote t : Text) : Option Text :=
  if quote.isPrefixOf t then body? quote (t.drop quote.length) else none

def content (t : Text) : Text :=
  (quotes.findSome? fun quote => enclosed? quote (t.dropWhile isLetter)).getD t

end Restatement.Literal
