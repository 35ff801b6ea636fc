/-! # Ends of lines -/

namespace RouteCensus.Text

/-- The text with every end of line written as a line feed. -/
def unixLines : List Char → List Char
  | [] => []
  | '\r' :: '\n' :: rest => '\n' :: unixLines rest
  | '\r' :: rest => '\n' :: unixLines rest
  | c :: rest => c :: unixLines rest

end RouteCensus.Text
