/-! # UTF-8

Bytes are read character by character.  A byte that belongs to no well-formed
sequence yields `none`, which a lenient reader drops and a strict one refuses.
-/

namespace RouteCensus.Text.Utf8

def encode (s : List Char) : List UInt8 :=
  s.flatMap String.utf8EncodeChar

def isTail (b : UInt8) : Bool :=
  0x80 ≤ b && b ≤ 0xBF

/-- The low six bits of a continuation byte. -/
def tailBits (b : UInt8) : Nat :=
  b.toNat % 0x40

def one? (a : UInt8) : Option Char :=
  if a < 0x80 then some (Char.ofNat a.toNat) else none

def two? (a b : UInt8) : Option Char :=
  if 0xC2 ≤ a && a ≤ 0xDF && isTail b then
    some (Char.ofNat (a.toNat % 0x20 * 0x40 + tailBits b))
  else
    none

def three? (a b c : UInt8) : Option Char :=
  let fits := if a == 0xE0 then 0xA0 ≤ b else if a == 0xED then b ≤ 0x9F else 0xE1 ≤ a && a ≤ 0xEF
  if fits && isTail b && isTail c then
    some (Char.ofNat ((a.toNat % 0x10 * 0x40 + tailBits b) * 0x40 + tailBits c))
  else
    none

def four? (a b c d : UInt8) : Option Char :=
  let fits := if a == 0xF0 then 0x90 ≤ b else if a == 0xF4 then b ≤ 0x8F else 0xF1 ≤ a && a ≤ 0xF3
  if fits && isTail b && isTail c && isTail d then
    some (Char.ofNat (((a.toNat % 0x08 * 0x40 + tailBits b) * 0x40 + tailBits c) * 0x40 + tailBits d))
  else
    none

/-- The character that the bytes start with, and how many continuation bytes it has. -/
def lead? : List UInt8 → Option (Char × Nat)
  | [] => none
  | [a] => (one? a).map (·, 0)
  | [a, b] => (one? a).map (·, 0) <|> (two? a b).map (·, 1)
  | [a, b, c] => (one? a).map (·, 0) <|> (two? a b).map (·, 1) <|> (three? a b c).map (·, 2)
  | a :: b :: c :: d :: _ =>
    (one? a).map (·, 0) <|> (two? a b).map (·, 1) <|> (three? a b c).map (·, 2) <|> (four? a b c d).map (·, 3)

/-- The characters after `skip` more bytes, with `none` for each byte outside a well-formed sequence. -/
def scanAfter (skip : Nat) : List UInt8 → List (Option Char)
  | [] => []
  | a :: rest =>
    match skip with
    | k + 1 => scanAfter k rest
    | 0 =>
      match lead? (a :: rest) with
      | some (c, k) => some c :: scanAfter k rest
      | none => none :: scanAfter 0 rest

def scan (bytes : List UInt8) : List (Option Char) :=
  scanAfter 0 bytes

def decode? (bytes : List UInt8) : Option (List Char) :=
  (scan bytes).mapM id

/-- The text that is left when bytes outside well-formed sequences are dropped. -/
def decodeLenient (bytes : List UInt8) : List Char :=
  (scan bytes).filterMap id

end RouteCensus.Text.Utf8
