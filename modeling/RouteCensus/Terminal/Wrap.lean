import RouteCensus.Text.Blank
import RouteCensus.Text.Width

/-! # Fitting text into a width

Text is broken into lines between words, and a line that is still too long is
cut.  A word that fits on no line is either broken as well or cut with an
ellipsis.  Tabs become blanks up to the next stop.  A style that cannot be read
does harm only if some place that has it is left on a line.
-/

namespace RouteCensus.Terminal

/-- A character of a text, and whether it has a style that cannot be read. -/
structure Glyph where
  char : Char
  faulty : Bool := false
  deriving DecidableEq, Repr

/-- A text with the places where styles that cannot be read begin and end at once. -/
structure Marked where
  glyphs : List Glyph := []
  gaps : List Nat := []
  deriving DecidableEq, Repr

def chars (glyphs : List Glyph) : List Char :=
  glyphs.map Glyph.char

structure Fit where
  width : Nat
  /-- Whether lines are broken between words. -/
  wraps : Bool := true
  /-- Whether a word that fits on no line goes on in the next one. -/
  folds : Bool := false
  deriving DecidableEq, Repr

def tabSize : Nat := 8

/-- Replaces tabs by one blank or more, up to the next stop; `position` is the column reached. -/
def expandTabs (position : Nat) : List Glyph → List Glyph
  | [] => []
  | g :: rest =>
    if g.char == '\t' then
      let stop := (position + tabSize) / tabSize * tabSize
      List.replicate (stop - position) { g with char := ' ' } ++ expandTabs stop rest
    else
      g :: expandTabs (position + Text.charWidth g.char) rest

/-- The words of a line, each with the blanks behind it, the first one also with those in front.
`word` holds what was read of a word, `begun` and `ended` whether it has letters and blanks
behind them. -/
def wordsAfter (word : List Glyph) (begun ended : Bool) : List Glyph → List (List Glyph)
  | [] => if begun then [word.reverse] else []
  | g :: rest =>
    if Text.isBlank g.char then wordsAfter (g :: word) begun begun rest
    else if ended then word.reverse :: wordsAfter [g] true false rest
    else wordsAfter (g :: word) true false rest

def lineWords (line : List Glyph) : List (List Glyph) :=
  wordsAfter [] false false line

/-- Breaks a word into parts that fit; `part` holds what was read of one and `used` its width. -/
def chopAfter (width used : Nat) (part : List Glyph) : List Glyph → List (List Glyph)
  | [] => [part.reverse]
  | g :: rest =>
    let size := Text.charWidth g.char
    if width < used + size then part.reverse :: chopAfter width size [g] rest
    else chopAfter width (used + size) (g :: part) rest

def trimEnd (line : List Glyph) : List Glyph :=
  (line.reverse.dropWhile fun g => Text.isBlank g.char).reverse

/-- Puts words into lines, behind a line of the given width that is begun. -/
def placeWords (fit : Fit) (line : List Glyph) (used : Nat) : List (List Glyph) → List (List Glyph)
  | [] => [line]
  | word :: rest =>
    let size := Text.width (chars (trimEnd word))
    if used + size ≤ fit.width then
      placeWords fit (line ++ word) (used + Text.width (chars word)) rest
    else
      let finished := if line.isEmpty then [] else [line]
      if fit.width < size && fit.folds then
        let parts := chopAfter fit.width 0 [] word
        let last := parts.getLastD []
        finished ++ parts.dropLast ++ placeWords fit last (Text.width (chars last)) rest
      else
        finished ++ placeWords fit word (Text.width (chars word)) rest

def breakLine (fit : Fit) (line : List Glyph) : List (List Glyph) :=
  if fit.wraps then
    match lineWords line with
    | [] => [line]
    | words => placeWords fit [] 0 words
  else
    [line]

/-- Drops blanks at the end of a line, but no more than it has characters beyond the width. -/
def dropExcess (width : Nat) (line : List Glyph) : List Glyph :=
  let blanks := line.length - (trimEnd line).length
  line.take (line.length - min blanks (line.length - width))

def cut : Nat → List Char → List Char
  | n, [] => List.replicate n ' '
  | n, c :: rest =>
    if Text.charWidth c ≤ n then c :: cut (n - Text.charWidth c) rest else List.replicate n ' '

def rewrite : List Char → List Glyph → List Glyph
  | [], _ => []
  | c :: rest, [] => { char := c } :: rewrite rest []
  | c :: rest, g :: line => { g with char := c } :: rewrite rest line

def shorten (fit : Fit) (line : List Glyph) : List Glyph :=
  let text := chars line
  if Text.width text ≤ fit.width then line
  else if fit.folds then rewrite (cut fit.width text) line
  else rewrite (cut (fit.width - 1) text ++ ['…']) line

def fill (width : Nat) (line : List Char) : List Char :=
  if Text.width line ≤ width then line ++ List.replicate (width - Text.width line) ' ' else cut width line

def fitLines (fit : Fit) (text : List Glyph) : List (List Glyph) :=
  (text.splitOnP fun g => g.char == '\n').flatMap fun line =>
    (breakLine fit (expandTabs 0 line)).map fun line => shorten fit (dropExcess fit.width line)

/-- The gaps that are left when the end of a line is cut off. -/
def gapsLeft (gaps : List Nat) (before after : List Glyph) : List Nat :=
  if after.length < before.length then gaps.filter (· < after.length) else gaps

/-- Whether a gap is left: there is none if the text takes several lines or has tabs. -/
def Marked.keepsGap (m : Marked) (fit : Fit) : Bool :=
  let cropped := dropExcess fit.width m.glyphs
  !(m.glyphs.any fun g => g.char == '\n' || g.char == '\t') && (breakLine fit m.glyphs).length == 1 &&
    !(gapsLeft (gapsLeft m.gaps m.glyphs cropped) cropped (shorten fit cropped)).isEmpty

/-- The lines of a text, if all styles that are left in them can be read. -/
def Marked.lines? (m : Marked) (fit : Fit) : Option (List (List Char)) :=
  let lines := fitLines fit m.glyphs
  if (lines.any fun line => line.any Glyph.faulty) || m.keepsGap fit then none else some (lines.map chars)

end RouteCensus.Terminal
