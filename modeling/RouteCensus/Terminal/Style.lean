import RouteCensus.Terminal.Color
import RouteCensus.Text.Blank
import RouteCensus.Text.Case

/-! # Styles

A style is written as words: attributes, a colour, a colour behind the word `on`
for the background, and the target of a link.  Definitions of the same style have
the same normal form.
-/

namespace RouteCensus.Terminal

inductive Attribute where
  | bold
  | dim
  | italic
  | underline
  | blink
  | blink2
  | reverse
  | conceal
  | strike
  | underline2
  | frame
  | encircle
  | overline
  deriving DecidableEq, Repr

namespace Attribute

def all : List Attribute :=
  [bold, dim, italic, underline, blink, blink2, reverse, conceal, strike, underline2, frame, encircle, overline]

/-- The words for an attribute; the first one stands in the normal form. -/
def words : Attribute → List String
  | bold => ["bold", "b"]
  | dim => ["dim", "d"]
  | italic => ["italic", "i"]
  | underline => ["underline", "u"]
  | blink => ["blink"]
  | blink2 => ["blink2"]
  | reverse => ["reverse", "r"]
  | conceal => ["conceal", "c"]
  | strike => ["strike", "s"]
  | underline2 => ["underline2", "uu"]
  | frame => ["frame"]
  | encircle => ["encircle"]
  | overline => ["overline", "o"]

def ofWord? (word : List Char) : Option Attribute :=
  all.find? fun a => a.words.contains (String.ofList word)

def name (a : Attribute) : String :=
  a.words.headD ""

end Attribute

structure Style where
  /-- Attributes that are switched on or off, the last mentioned one first. -/
  attributes : List (Attribute × Bool) := []
  color : Option (List Char) := none
  background : Option (List Char) := none
  link : Option (List Char) := none
  deriving DecidableEq, Repr

namespace Style

inductive Reading where
  | style (s : Style)
  | unknown
  | badComponent
  deriving DecidableEq, Repr

def withColor (word : List Char) (next : List Char → Reading) : Reading :=
  match readColor (Text.lower word) with
  | .color => next (Text.lower word)
  | .unknown => .unknown
  | .badComponent => .badComponent

/-- Adds what the words say to a style; a later word goes before an earlier one. -/
def readWords (s : Style) : List (List Char) → Reading
  | [] => .style s
  | word :: rest =>
    let lower := Text.lower word
    if lower == "on".toList then
      match rest with
      | [] => .unknown
      | word :: rest => withColor word fun color => readWords { s with background := some color } rest
    else if lower == "not".toList then
      match rest with
      | [] => .unknown
      | word :: rest =>
        match Attribute.ofWord? word with
        | some a => readWords { s with attributes := (a, false) :: s.attributes } rest
        | none => .unknown
    else if lower == "link".toList then
      match rest with
      | [] => .unknown
      | word :: rest => readWords { s with link := some word } rest
    else
      match Attribute.ofWord? lower with
      | some a => readWords { s with attributes := (a, true) :: s.attributes } rest
      | none => withColor lower fun color => readWords { s with color := some color } rest

def normalWords (s : Style) : List (List Char) :=
  (Attribute.all.flatMap fun a =>
    match s.attributes.lookup a with
    | some true => [a.name.toList]
    | some false => ["not".toList, a.name.toList]
    | none => []) ++
  s.color.toList ++
  (s.background.map fun color => ["on".toList, color]).getD [] ++
  (s.link.map fun target => ["link".toList, target]).getD []

/-- The normal form of a style; one without any word has a word of its own. -/
def normalForm (s : Style) : List Char :=
  match s.normalWords with
  | [] => "none".toList
  | words => [' '].intercalate words

/-- What a definition says; the word for no style, or no word at all, says nothing. -/
def read (definition : List Char) : Reading :=
  if Text.trim definition == "none".toList then .style {} else readWords {} (Text.blankWords definition)

/-- The normal form of a definition, in lower case and trimmed if it is none.  It fails if a
component of a colour cannot be read. -/
def normalize? (definition : List Char) : Option (List Char) :=
  match read definition with
  | .style s => some s.normalForm
  | .unknown => some (Text.lower (Text.trim definition))
  | .badComponent => none

end Style
end RouteCensus.Terminal
