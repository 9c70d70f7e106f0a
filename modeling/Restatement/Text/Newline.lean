import Restatement.Text.Basic

namespace Restatement.Text

/-- Every line end, a carriage return with or without a line feed, becomes a line feed. -/
def unifyNewlines : Text → Text
  | [] => []
  | '\r' :: '\n' :: rest => '\n' :: unifyNewlines rest
  | '\r' :: rest => '\n' :: unifyNewlines rest
  | c :: rest => c :: unifyNewlines rest

end Restatement.Text
