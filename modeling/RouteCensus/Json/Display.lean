import RouteCensus.Json.Writer
import RouteCensus.Text.Printable

/-! # Values in messages

A message shows a value in a form close to source code: quoted strings, `None`
for the null value, capitalised truth values.
-/

namespace RouteCensus.Json

/-- Lower case hexadecimal digits of a number, filled up with zeros. -/
def hexText (width n : Nat) : List Char :=
  let digits := Nat.toDigits 16 n
  List.replicate (width - digits.length) '0' ++ digits

def displayEscape (n : Nat) : List Char :=
  if n < 0x100 then '\\' :: 'x' :: hexText 2 n
  else if n < 0x10000 then '\\' :: 'u' :: hexText 4 n
  else '\\' :: 'U' :: hexText 8 n

def displayCode (quote : Char) (n : Nat) : List Char :=
  if JsonString.isSurrogate n then displayEscape n
  else
    let c := Char.ofNat n
    if c == quote || c == '\\' then ['\\', c]
    else if c == '\n' then ['\\', 'n']
    else if c == '\r' then ['\\', 'r']
    else if c == '\t' then ['\\', 't']
    else if Text.isPrintable c then [c]
    else displayEscape n

/-- Single quotes, unless the text holds one and no double quote. -/
def displayString (s : JsonString) : List Char :=
  let codes := s.toCodes
  let quote := if codes.contains 0x27 && !codes.contains 0x22 then '"' else '\x27'
  quote :: codes.flatMap (displayCode quote) ++ [quote]

mutual

def displayValue : Json → List Char
  | null => "None".toList
  | bool b => (if b then "True" else "False").toList
  | int n => writeInt n
  | real x => x.text
  | str s => displayString s
  | arr [] => "[]".toList
  | arr (item :: items) => '[' :: displayValue item ++ displayItems items ++ [']']
  | obj [] => "\x7b\x7d".toList
  | obj ((name, value) :: members) =>
    '{' :: displayString name ++ ": ".toList ++ displayValue value ++ displayMembers members ++ ['}']

def displayItems : List Json → List Char
  | [] => []
  | item :: items => ", ".toList ++ displayValue item ++ displayItems items

def displayMembers : List (JsonString × Json) → List Char
  | [] => []
  | (name, value) :: members =>
    ", ".toList ++ displayString name ++ ": ".toList ++ displayValue value ++ displayMembers members

end

def display (value : Json) : String :=
  String.ofList (displayValue value)

end RouteCensus.Json
