import Restatement.Text.Ranges

namespace Restatement.Text

/-- Blank code points: the separators of Unicode together with the control characters that
separate lines, files, groups, records and units. -/
def blankRanges : Ranges :=
  [(9, 13), (28, 32), (133, 133), (160, 160), (5760, 5760), (8192, 8202), (8232, 8233),
   (8239, 8239), (8287, 8287), (12288, 12288)]

def isBlank (c : Char) : Bool := blankRanges.has c.toNat

end Restatement.Text
