import Restatement.Comment.Basic

/-!
The words of a comment. A block comment is read line by line, without the stars that decorate it.
-/

namespace Restatement

def undecorate (line : Text) : Text :=
  let rest :=
    match Text.trimStart line with
    | '*' :: rest => rest
    | rest => rest
  match rest with
  | c :: tail => if Text.isBlank c then tail else rest
  | [] => []

def blockLines (body : Text) : List Text :=
  ((Text.splitOn '\n' (Text.trim body)).map fun line => Text.trim (undecorate line)).filter
    fun line => !line.isEmpty

def Comment.firstLine (comment : Comment) : Text :=
  match comment.kind with
  | .line => Text.trim comment.body
  | .block => (blockLines comment.body).headD []

def Comment.text (comment : Comment) : Text :=
  match comment.kind with
  | .line => Text.trim comment.body
  | .block => Text.joinWith [' '] (blockLines comment.body)

end Restatement
