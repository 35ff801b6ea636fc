import RouteCensus.Json.Reader
import RouteCensus.Terminal.EmojiTable
import RouteCensus.Text.Blank
import RouteCensus.Text.Case

/-! # Emoji in text

A name between colons stands for an emoji.  Behind the name a hyphen and a word
may ask for a presentation.  What names no emoji stays as it is.
-/

namespace RouteCensus.Terminal.Emoji

def charOfHex (s : List Char) : Char :=
  Char.ofNat (s.foldl (fun n c => n * 16 + (Json.hexDigit? c).getD 0) 0)

def pairs : List (List Char) → List (List Char × List Char)
  | name :: codes :: rest => (name, (codes.splitOn '-').map charOfHex) :: pairs rest
  | _ => []

def named : List (List Char × List Char) :=
  pairs (Text.blankWords table.toList)

/-- A presentation: the word that asks for it, and the selector that it adds. -/
structure Presentation where
  word : List Char
  selector : Char
  deriving DecidableEq, Repr

def presentations : List Presentation :=
  [⟨"emoji".toList, '\uFE0F'⟩, ⟨"text".toList, '\uFE0E'⟩]

def Presentation.ending (p : Presentation) : List Char :=
  '-' :: p.word ++ [':']

/-- A code, from behind its first colon to its last one. -/
structure Code where
  name : List Char
  presentation : Option Presentation
  length : Nat
  deriving DecidableEq, Repr

/-- The code that a text starts with, after the first colon; it holds no blanks. -/
def code? : List Char → Option Code
  | [] => none
  | c :: rest =>
    match presentations.find? fun p => p.ending.isPrefixOf (c :: rest) with
    | some p => some ⟨[], some p, p.ending.length⟩
    | none =>
      if c == ':' then some ⟨[], none, 1⟩
      else if Text.isBlank c then none
      else (code? rest).map fun code => { code with name := c :: code.name, length := code.length + 1 }

def Code.emoji? (code : Code) : Option (List Char) :=
  (named.lookup (Text.lower code.name)).map fun emoji =>
    emoji ++ (code.presentation.map Presentation.selector).toList

/-- Replaces the codes of a text, after passing over `skip` characters. -/
def replaceAfter (skip : Nat) : List Char → List Char
  | [] => []
  | c :: rest =>
    match skip with
    | skip + 1 => replaceAfter skip rest
    | 0 =>
      match if c == ':' then code? rest else none with
      | some code => code.emoji?.getD (c :: rest.take code.length) ++ replaceAfter code.length rest
      | none => c :: replaceAfter 0 rest

def replace (s : List Char) : List Char :=
  replaceAfter 0 s

end RouteCensus.Terminal.Emoji
