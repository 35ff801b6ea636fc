import RouteCensus.Text.CodePoints

/-! # Blank characters

Two notions of blank space occur.  The wider one, used to trim and to split
text, also counts the four information separators below the space.
-/

namespace RouteCensus.Text

def blankRuns : Runs := [
  (0x9, 0xD), (0x1C, 0x20), (0x85, 0x85), (0xA0, 0xA0), (0x1680, 0x1680), (0x2000, 0x200A),
  (0x2028, 0x2029), (0x202F, 0x202F), (0x205F, 0x205F), (0x3000, 0x3000)]

def isBlank (c : Char) : Bool :=
  blankRuns.has c

/-- Whitespace without the information separators U+001C to U+001F. -/
def isSpacing (c : Char) : Bool :=
  isBlank c && !(decide (0x1C ≤ c.toNat) && decide (c.toNat ≤ 0x1F))

/-- The text without leading and trailing characters of the class. -/
def trimBy (p : Char → Bool) (s : List Char) : List Char :=
  ((s.dropWhile p).reverse.dropWhile p).reverse

def trim (s : List Char) : List Char :=
  trimBy isBlank s

/-- The maximal stretches without a blank. -/
def blankWords (s : List Char) : List (List Char) :=
  (s.splitOnP isBlank).filter fun w => !w.isEmpty

end RouteCensus.Text
