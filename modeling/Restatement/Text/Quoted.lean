import Restatement.Text.Basic
import Restatement.Text.Printable

/-!
Quoted text. Single quotes enclose the text unless it holds a single quote and no double quote;
the backslash, the enclosing quote, line controls and everything unprintable are escaped.
-/

namespace Restatement.Text

def escapeFor (quote : Char) (c : Char) : Text :=
  if c = quote || c = '\\' then ['\\', c]
  else if c = '\t' then ['\\', 't']
  else if c = '\n' then ['\\', 'n']
  else if c = '\r' then ['\\', 'r']
  else if isPrintable c then [c]
  else if c.toNat < 0x100 then ['\\', 'x'] ++ hexDigits 2 c.toNat
  else if c.toNat < 0x10000 then ['\\', 'u'] ++ hexDigits 4 c.toNat
  else ['\\', 'U'] ++ hexDigits 8 c.toNat

def quoteMark (t : Text) : Char :=
  if t.contains '\'' && !t.contains '"' then '"' else '\''

def quoted (t : Text) : Text :=
  let quote := quoteMark t
  quote :: t.flatMap (escapeFor quote) ++ [quote]

end Restatement.Text
