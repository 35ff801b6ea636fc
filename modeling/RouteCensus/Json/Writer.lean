import RouteCensus.Json.Value
import RouteCensus.Number.Shortest

/-! # Writing JSON text

The indented form puts every item and member on a line of its own, two blanks
deeper than its container; an empty container stays on one line.
-/

namespace RouteCensus.Json

/-- Which characters are escaped, beside quotes, backslashes and controls. -/
inductive Charset where
  /-- All others stand for themselves. -/
  | unicode
  /-- Only the printable ASCII characters stand for themselves. -/
  | ascii
  deriving DecidableEq, Repr

def hexDigit (n : Nat) : Char :=
  if n < 10 then Char.ofNat (48 + n) else Char.ofNat (87 + n)

/-- The escape of a code unit below `0x10000`. -/
def unitEscape (n : Nat) : List Char :=
  ['\\', 'u', hexDigit (n / 4096 % 16), hexDigit (n / 256 % 16), hexDigit (n / 16 % 16), hexDigit (n % 16)]

def codeEscape (n : Nat) : List Char :=
  if n < 0x10000 then unitEscape n
  else unitEscape (0xD800 + (n - 0x10000) / 0x400) ++ unitEscape (0xDC00 + (n - 0x10000) % 0x400)

def writeChar (charset : Charset) (c : Char) : List Char :=
  if c == '"' then ['\\', '"']
  else if c == '\\' then ['\\', '\\']
  else if c == '\n' then ['\\', 'n']
  else if c == '\r' then ['\\', 'r']
  else if c == '\t' then ['\\', 't']
  else if c == '\x08' then ['\\', 'b']
  else if c == '\x0c' then ['\\', 'f']
  else if c.toNat < 0x20 then codeEscape c.toNat
  else if charset = .ascii ∧ 0x7E < c.toNat then codeEscape c.toNat
  else [c]

def writeCode (charset : Charset) (n : Nat) : List Char :=
  if JsonString.isSurrogate n then codeEscape n else writeChar charset (Char.ofNat n)

def writeString (charset : Charset) (s : JsonString) : List Char :=
  '"' :: (match s with
    | .text s => s.toList.flatMap (writeChar charset)
    | .broken codes => codes.flatMap (writeCode charset)) ++ ['"']

def writeInt (n : Int) : List Char :=
  if n < 0 then '-' :: Nat.toDigits 10 n.natAbs else Nat.toDigits 10 n.natAbs

def writeReal : Double → List Char
  | .nan => "NaN".toList
  | .infinite negative => (if negative then "-Infinity" else "Infinity").toList
  | x => x.text

def newLine (depth : Nat) : List Char :=
  '\n' :: List.replicate (2 * depth) ' '

mutual

/-- The indented form of a value that starts at the given depth. -/
def write (charset : Charset) (depth : Nat) : Json → List Char
  | null => "null".toList
  | bool b => (if b then "true" else "false").toList
  | int n => writeInt n
  | real x => writeReal x
  | str s => writeString charset s
  | arr [] => "[]".toList
  | arr (item :: items) =>
    '[' :: newLine (depth + 1) ++ write charset (depth + 1) item ++
      writeItems charset (depth + 1) items ++ newLine depth ++ [']']
  | obj [] => "\x7b\x7d".toList
  | obj ((name, value) :: members) =>
    '{' :: newLine (depth + 1) ++ writeString charset name ++ ": ".toList ++
      write charset (depth + 1) value ++ writeMembers charset (depth + 1) members ++ newLine depth ++ ['}']

def writeItems (charset : Charset) (depth : Nat) : List Json → List Char
  | [] => []
  | item :: items => ',' :: newLine depth ++ write charset depth item ++ writeItems charset depth items

def writeMembers (charset : Charset) (depth : Nat) : List (JsonString × Json) → List Char
  | [] => []
  | (name, value) :: members =>
    ',' :: newLine depth ++ writeString charset name ++ ": ".toList ++ write charset depth value ++
      writeMembers charset depth members

end

mutual

def writeLine : Json → List Char
  | arr [] => "[]".toList
  | arr (item :: items) => '[' :: writeLine item ++ writeLineItems items ++ [']']
  | obj [] => "\x7b\x7d".toList
  | obj ((name, value) :: members) =>
    '{' :: writeString .ascii name ++ ':' :: writeLine value ++ writeLineMembers members ++ ['}']
  | null => "null".toList
  | bool b => (if b then "true" else "false").toList
  | int n => writeInt n
  | real x => writeReal x
  | str s => writeString .ascii s

def writeLineItems : List Json → List Char
  | [] => []
  | item :: items => ',' :: writeLine item ++ writeLineItems items

def writeLineMembers : List (JsonString × Json) → List Char
  | [] => []
  | (name, value) :: members =>
    ',' :: writeString .ascii name ++ ':' :: writeLine value ++ writeLineMembers members

end

def pretty (charset : Charset) (value : Json) : String :=
  String.ofList (write charset 0 value)

def line (value : Json) : String :=
  String.ofList (writeLine value)

end RouteCensus.Json
