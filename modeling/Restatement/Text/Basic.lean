import Restatement.Text.Blank

/-!
Text as a list of code points. Lengths, cuts and positions count code points.
-/

namespace Restatement

abbrev Text := List Char

instance : Coe String Text := ⟨String.toList⟩

namespace Text

def trimStart (t : Text) : Text := t.dropWhile isBlank

def trimEnd (t : Text) : Text := (t.reverse.dropWhile isBlank).reverse

def trim (t : Text) : Text := trimEnd (trimStart t)

def runs (p : Char → Bool) : Text → List Text
  | [] => []
  | c :: rest =>
      if p c then
        match rest with
        | [] => [[c]]
        | d :: _ =>
            if p d then
              match runs p rest with
              | [] => [[c]]
              | run :: others => (c :: run) :: others
            else [c] :: runs p rest
      else runs p rest

def words (t : Text) : List Text := runs (fun c => !isBlank c) t

def splitOn (separator : Char) : Text → List Text
  | [] => [[]]
  | c :: rest =>
      if c = separator then [] :: splitOn separator rest
      else
        match splitOn separator rest with
        | [] => [[c]]
        | piece :: pieces => (c :: piece) :: pieces

def joinWith (separator : Text) (parts : List Text) : Text := List.intercalate separator parts

def occursIn (needle : Text) : Text → Bool
  | [] => needle.isEmpty
  | c :: rest => needle.isPrefixOf (c :: rest) || occursIn needle rest

def upTo (bound : Int) (t : Text) : Text :=
  if 0 ≤ bound then t.take bound.toNat else t.take (t.length + bound).toNat

/-- Text longer than `limit` is cut to `limit - 3` code points and an ellipsis. -/
def truncate (t : Text) (limit : Int) : Text :=
  if limit < t.length then upTo (limit - 3) t ++ "...".toList else t

def ofNat (n : Nat) : Text := Nat.toDigits 10 n

def ofInt : Int → Text
  | .ofNat n => ofNat n
  | .negSucc n => '-' :: ofNat (n + 1)

def hexDigits (width : Nat) (n : Nat) : Text :=
  let digits := Nat.toDigits 16 n
  List.replicate (width - digits.length) '0' ++ digits

def hexByte (b : UInt8) : Text := hexDigits 2 b.toNat

def before : Text → Text → Bool
  | [], [] => false
  | [], _ :: _ => true
  | _ :: _, [] => false
  | c :: s, d :: t => c.toNat < d.toNat || (c == d && before s t)

end Text

end Restatement
