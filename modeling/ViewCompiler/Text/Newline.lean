import ViewCompiler.Text.Basic

/-!
# Line ends
-/

namespace ViewCompiler.Text

/-- A text in which every line ends with a single line feed. -/
def withLineFeeds : Text → Text
  | [] => []
  | '\r' :: '\n' :: rest => '\n' :: withLineFeeds rest
  | '\r' :: rest => '\n' :: withLineFeeds rest
  | c :: rest => c :: withLineFeeds rest

/-- For each character of `withLineFeeds`, whether it is a line feed in the text itself. -/
def lineEnds : Text → List Bool
  | [] => []
  | '\r' :: '\n' :: rest => true :: lineEnds rest
  | c :: rest => (c == '\n') :: lineEnds rest

end ViewCompiler.Text
