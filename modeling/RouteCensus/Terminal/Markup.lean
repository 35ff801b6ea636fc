import RouteCensus.Terminal.Emoji
import RouteCensus.Terminal.Handler
import RouteCensus.Terminal.Style
import RouteCensus.Terminal.Wrap

/-! # Marked up text

Messages may hold style tags in square brackets: a tag opens a style, one that
starts with a slash closes it, the last opened one if it names none.  A
backslash keeps a bracket from being a tag.  The text of a message is what is left
without its tags, with codes of emoji replaced.  The name of a tag is read when it
opens a style; what stands behind its equals sign is read together with the name,
but only for the places that have the style in the end.
-/

namespace RouteCensus.Terminal.Markup

inductive Error where
  /-- A style is closed that is not open. -/
  | notOpen
  /-- The handler of a closed tag is not proper. -/
  | handler
  /-- A component of a colour cannot be read. -/
  | color
  deriving DecidableEq, Repr

inductive Piece where
  /-- What stands between tags. -/
  | plain (text : List Char)
  /-- What a backslash in front of a tag makes of it. -/
  | kept (text : List Char)
  | tag (text : List Char)
  deriving DecidableEq, Repr

def startsTag (c : Char) : Bool :=
  ('a' ≤ c && c ≤ 'z') || c == '#' || c == '/' || c == '@'

def tagText? (s : List Char) : Option (List Char) :=
  let inner := s.takeWhile fun c => c != ']' && c != '['
  match inner, (s.drop inner.length).head? with
  | c :: _, some ']' => if startsTag c then some inner else none
  | _, _ => none

/-- The tag that a text starts with after some backslashes, and the number of these. -/
def tagAt? (s : List Char) : Option (Nat × List Char) :=
  let slashes := s.takeWhile (· == '\\')
  match s.drop slashes.length with
  | '[' :: rest => (tagText? rest).map fun text => (slashes.length, text)
  | _ => none

/-- What a tag after some backslashes stands for: each pair of them is one, and one that is left
makes the tag plain. -/
def tagPieces (slashes : Nat) (text : List Char) : List Piece :=
  [.kept (List.replicate (slashes / 2) '\\'),
    if slashes % 2 = 1 then .kept ('[' :: text ++ [']']) else .tag text]

def addPlain (c : Char) : List Piece → List Piece
  | .plain text :: rest => .plain (c :: text) :: rest
  | pieces => .plain [c] :: pieces

def piecesAfter (skip : Nat) : List Char → List Piece
  | [] => []
  | c :: rest =>
    match skip with
    | skip + 1 => piecesAfter skip rest
    | 0 =>
      match tagAt? (c :: rest) with
      | some (slashes, text) => tagPieces slashes text ++ piecesAfter (slashes + text.length + 1) rest
      | none => addPlain c (piecesAfter 0 rest)

/-- Removes the backslashes in front of brackets that open no tag. -/
def freeBrackets : List Char → List Char
  | [] => []
  | '\\' :: '[' :: rest => '[' :: freeBrackets rest
  | c :: rest => c :: freeBrackets rest

/-- A style that a tag opened, with the value of the tag and the place in the text. -/
structure Opened where
  name : List Char
  value : Option (List Char)
  start : Nat
  deriving DecidableEq, Repr

def tagName (text : List Char) : List Char :=
  text.takeWhile (· != '=')

def tagValue? (text : List Char) : Option (List Char) :=
  (text.dropWhile (· != '=')).tail?

def normalName (name : List Char) : Except Error (List Char) :=
  (Style.normalize? name).elim (.error .color) .ok

/-- The definition of an opened style, which has its value for further words. -/
def Opened.definition (o : Opened) : List Char :=
  o.name ++ (o.value.map fun value => ' ' :: value).getD []

def Opened.isFaulty (o : Opened) : Bool :=
  Style.read o.definition == .badComponent

def close (opened : List Opened) (name : List Char) : Except Error (Opened × List Opened) :=
  match Text.trim name, opened with
  | [], [] => .error .notOpen
  | [], last :: others => .ok (last, others)
  | name, _ => do
    let name ← normalName name
    match opened.find? fun o => o.name == name with
    | some o => return (o, opened.erase o)
    | none => throw .notOpen

def Opened.isProper (isCharName : List Char → Bool) (o : Opened) : Bool :=
  match o.name, o.value with
  | '@' :: _, some (c :: rest) => Handler.isProper isCharName (c :: rest)
  | _, _ => true

/-- Characters that move a terminal's cursor are never printed. -/
def isCursorControl (c : Char) : Bool :=
  c == '\x07' || c == '\x08' || c == '\x0b' || c == '\x0c' || c == '\r'

def printed (text : List Char) : List Char :=
  (Emoji.replace text).filter fun c => !isCursorControl c

/-- The places of styles that end where they begin and cannot be read. -/
def gapsAt (place : Nat) (ended : List Opened) : List Nat :=
  (ended.filter fun o => o.isFaulty && o.start == place).map Opened.start

def prepend (opened : List Opened) (text : List Char) (m : Marked) : Marked :=
  { m with glyphs := text.map (⟨·, opened.any Opened.isFaulty⟩) ++ m.glyphs }

/-- The text of the pieces from a place on, while some styles are open, the last opened one first. -/
def readPieces (isCharName : List Char → Bool) (opened : List Opened) (place : Nat) :
    List Piece → Except Error Marked
  | [] => .ok { gaps := gapsAt place opened }
  | .plain text :: rest =>
    let text := printed (freeBrackets text)
    (readPieces isCharName opened (place + text.length) rest).map (prepend opened text)
  | .kept text :: rest =>
    let text := printed text
    (readPieces isCharName opened (place + text.length) rest).map (prepend opened text)
  | .tag ('/' :: text) :: rest => do
    let (closed, others) ← close opened (tagName text)
    if closed.isProper isCharName then
      let m ← readPieces isCharName others place rest
      return { m with gaps := gapsAt place [closed] ++ m.gaps }
    else throw .handler
  | .tag text :: rest => do
    readPieces isCharName (⟨← normalName (tagName text), tagValue? text, place⟩ :: opened) place rest

def read (isCharName : List Char → Bool) (s : String) : Except Error Marked :=
  readPieces isCharName [] 0 (piecesAfter 0 s.toList)

end RouteCensus.Terminal.Markup
