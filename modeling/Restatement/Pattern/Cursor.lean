import Restatement.Pattern.Error

/-!
A pattern as a stream of tokens: characters and escaped characters. A backslash at the end is
refused as soon as it becomes the next token.
-/

namespace Restatement.Pattern

inductive Token where
  | char (c : Char)
  | escape (c : Char)
  | dangling
  deriving DecidableEq, Repr

def Token.text : Token → Text
  | .char c => [c]
  | .escape c => ['\\', c]
  | .dangling => ['\\']

def tokenize : Text → List Token
  | [] => []
  | ['\\'] => [.dangling]
  | '\\' :: c :: rest => .escape c :: tokenize rest
  | c :: rest => .char c :: tokenize rest

structure Cursor where
  tokens : List Token
  position : Nat

namespace Cursor

def refuse {α : Type} (reason : Reason) (position : Nat) : Except Failure α :=
  .error (.invalid ⟨reason, some position⟩)

def next? (cursor : Cursor) : Option Token := cursor.tokens.head?

def check (cursor : Cursor) : Except Failure Cursor :=
  match cursor.tokens with
  | .dangling :: _ => refuse .danglingEscape cursor.position
  | _ => .ok cursor

def start (pattern : Text) : Except Failure Cursor := check ⟨tokenize pattern, 0⟩

def advance (cursor : Cursor) : Except Failure Cursor :=
  match cursor.tokens with
  | [] => .ok cursor
  | token :: rest => check ⟨rest, cursor.position + token.text.length⟩

def skip (cursor : Cursor) (c : Char) : Except Failure (Bool × Cursor) :=
  if cursor.next? = some (.char c) then do
    let cursor ← cursor.advance
    return (true, cursor)
  else .ok (false, cursor)

def takeWhile (p : Char → Bool) : (count : Nat) → Cursor → Except Failure (Text × Cursor)
  | 0, cursor => .ok ([], cursor)
  | count + 1, cursor =>
      match cursor.next? with
      | some (.char c) =>
          if p c then do
            let cursor ← cursor.advance
            let (taken, cursor) ← takeWhile p count cursor
            return (c :: taken, cursor)
          else .ok ([], cursor)
      | _ => .ok ([], cursor)

def takeUntil (terminator : Char) (what : Text) :
    (fuel : Nat) → (name : Text) → Cursor → Except Failure (Text × Cursor)
  | 0, name, cursor => refuse (.unterminatedName terminator) (cursor.position - name.length)
  | fuel + 1, name, cursor =>
      match cursor.next? with
      | none =>
          if name.isEmpty then refuse (.missingName what) cursor.position
          else refuse (.unterminatedName terminator) (cursor.position - name.length)
      | some token => do
          let after ← cursor.advance
          if token = .char terminator then
            if name.isEmpty then refuse (.missingName what) (after.position - 1)
            else return (name, after)
          else takeUntil terminator what fuel (name ++ token.text) after

def name (cursor : Cursor) (terminator : Char) (what : String) : Except Failure (Text × Cursor) :=
  takeUntil terminator what.toList (cursor.tokens.length + 1) [] cursor

end Cursor

end Restatement.Pattern
