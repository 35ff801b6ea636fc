/-! # Parts of text

Text is handled as a list of characters.  These are the cuts that the rest of
the library makes, beside those of the list library.
-/

namespace RouteCensus.Text

/-- The text before the first character of the class, all of it if there is none. -/
def before (p : Char → Bool) (s : List Char) : List Char :=
  s.takeWhile fun c => !p c

/-- The text after the first character of the class, if there is one. -/
def after? (p : Char → Bool) (s : List Char) : Option (List Char) :=
  match s.dropWhile fun c => !p c with
  | [] => none
  | _ :: rest => some rest

def occurs (part : List Char) : List Char → Bool
  | [] => part.isEmpty
  | c :: rest => part.isPrefixOf (c :: rest) || occurs part rest

/-- The non-empty items, each at its first place only. -/
def distinct (items : List String) : List String :=
  (items.filter fun item => !item.isEmpty).eraseDups

end RouteCensus.Text
