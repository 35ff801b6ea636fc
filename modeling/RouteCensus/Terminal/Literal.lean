import RouteCensus.Json.Reader
import RouteCensus.Text.Lines

/-! # Constants

A constant is a number, a text in quotes, one of a few words, or a group of
constants in brackets.  The text is cut into words, and the words are read one by
one while the open brackets are kept on a stack.  Of a value no more is known than
what may be done with it.
-/

namespace RouteCensus.Terminal.Literal

structure Numeral where
  imaginary : Bool := false
  /-- Whether a whole number is beyond the real numbers that are represented. -/
  huge : Bool := false
  deriving DecidableEq, Repr

inductive Bracket where
  | round
  | curly
  deriving DecidableEq, Repr

inductive Word where
  | number (n : Numeral)
  | text (bytes : Bool)
  /-- A constant that is no number and no text. -/
  | constant
  /-- The name that is called without arguments for an empty set. -/
  | set
  | opening (b : Bracket)
  | closing (b : Bracket)
  | comma
  | colon
  | sign
  | lineEnd
  deriving DecidableEq, Repr

/-! ## Numbers -/

/-- The smallest number that is rounded beyond the represented ones. -/
def hugeBound : Nat := Nat.pow 2 1024 - Nat.pow 2 970

def wholeValue (base : Nat) (digits : List Char) : Nat :=
  digits.foldl (fun n c => n * base + (Json.hexDigit? c).getD 0) 0

def wholeNumber (base : Nat) (digits : List Char) : Numeral where
  huge := decide (hugeBound ≤ wholeValue base digits)

/-- Digits at the start of a text, with single underscores between them, and the rest. -/
def takeDigits (p : Char → Bool) (s : List Char) : Option (List Char × List Char) :=
  let run := s.takeWhile fun c => p c || c == '_'
  if run.isEmpty then some ([], s)
  else if (run.splitOn '_').all fun group => !group.isEmpty then some (run.filter p, s.drop run.length)
  else none

def base? (c : Char) : Option Nat :=
  if c == 'x' || c == 'X' then some 16
  else if c == 'o' || c == 'O' then some 8
  else if c == 'b' || c == 'B' then some 2
  else none

def isDigitOf (base : Nat) (c : Char) : Bool :=
  (Json.hexDigit? c).any (· < base)

def dropExponent (s : List Char) : Option (Bool × List Char) :=
  match s with
  | c :: rest =>
    if c == 'e' || c == 'E' then do
      let rest := match rest with
        | '+' :: rest | '-' :: rest => rest
        | _ => rest
      let (digits, rest) ← takeDigits Json.isDigit rest
      if digits.isEmpty then none else some (true, rest)
    else some (false, s)
  | [] => some (false, s)

/-- Whether the digits of a whole number are no number: behind a zero only zeros may follow, and
there is a limit for all others. -/
def isRefused (digits : List Char) : Bool :=
  digits.any (· != '0') && (digits.head? == some '0' || decide (Json.mostDigits < digits.length))

def decimal? (s : List Char) : Option (Numeral × List Char) := do
  let (whole, s) ← takeDigits Json.isDigit s
  let (fraction, pointed, s) ← match s with
    | '.' :: rest => (takeDigits Json.isDigit rest).map fun (fraction, rest) => (fraction, true, rest)
    | _ => some ([], false, s)
  if whole.isEmpty && fraction.isEmpty then none
  else
    let (scaled, s) ← dropExponent s
    match s with
    | 'j' :: rest | 'J' :: rest => return ({ imaginary := true }, rest)
    | _ =>
      if pointed || scaled then return ({}, s)
      else if isRefused whole then none
      else return (wholeNumber 10 whole, s)

def number? (s : List Char) : Option (Numeral × List Char) :=
  match s with
  | '0' :: c :: rest =>
    match base? c with
    | some base => do
      let rest := match rest with
        | '_' :: rest => rest
        | _ => rest
      let (digits, rest) ← takeDigits (isDigitOf base) rest
      if digits.isEmpty then none else some (wholeNumber base digits, rest)
    | none => decimal? s
  | _ => decimal? s

/-! ## Texts -/

/-- What stands in front of the closing quotes, and what behind them; a backslash keeps the next
character from closing. -/
def splitQuoted (quotes : List Char) : List Char → Option (List Char × List Char)
  | [] => none
  | '\\' :: c :: rest => (splitQuoted quotes rest).map fun (body, rest) => ('\\' :: c :: body, rest)
  | c :: rest =>
    if quotes.isPrefixOf (c :: rest) then some ([], rest.drop (quotes.length - 1))
    else if c == '\n' && quotes.length == 1 then none
    else (splitQuoted quotes rest).map fun (body, rest) => (c :: body, rest)

def hexAhead? (count : Nat) (s : List Char) : Option Nat :=
  let digits := s.take count
  if digits.length == count && digits.all (isDigitOf 16) then some (wholeValue 16 digits) else none

def namesChar (isCharName : List Char → Bool) (s : List Char) : Bool :=
  match s with
  | '\x7b' :: rest =>
    let name := rest.takeWhile (· != '\x7d')
    name.length < rest.length && isCharName name
  | _ => false

/-- Whether the escapes in a text are proper; in bytes a character has no name and no code. -/
def escapesProper (isCharName : List Char → Bool) (bytes : Bool) : List Char → Bool
  | '\\' :: c :: rest =>
    (match c with
      | 'x' => (hexAhead? 2 rest).isSome
      | 'u' => bytes || (hexAhead? 4 rest).isSome
      | 'U' => bytes || (hexAhead? 8 rest).any (· ≤ 0x10ffff)
      | 'N' => bytes || namesChar isCharName rest
      | _ => true) && escapesProper isCharName bytes rest
  | _ :: rest => escapesProper isCharName bytes rest
  | [] => true

def quoteLetters : List String := ["", "r", "u", "b", "br", "rb"]

def text? (isCharName : List Char → Bool) (letters s : List Char) : Option (Word × List Char) := do
  let lower := letters.map Char.toLower
  let bytes := lower.contains 'b'
  let (body, rest) ← match s with
    | quote :: rest =>
      if [quote, quote].isPrefixOf rest then splitQuoted [quote, quote, quote] (rest.drop 2)
      else splitQuoted [quote] rest
    | [] => none
  if quoteLetters.contains (String.ofList lower) && !(bytes && body.any fun c => '\x80' ≤ c) &&
      (lower.contains 'r' || escapesProper isCharName bytes body) then
    some (.text bytes, rest)
  else
    none

/-! ## Words -/

def isNameChar (c : Char) : Bool :=
  c.isAlphanum || c == '_' || '\x80' ≤ c

def constantNames : List String := ["None", "True", "False"]

/-- The letters of the name that is called for an empty set, each with the letters that count as the
same one in a name. -/
def setLetters : List String :=
  ["sſˢₛｓ𝐬𝑠𝒔𝓈𝓼𝔰𝕤𝖘𝗌𝘀𝘴𝙨𝚜", "eᵉₑℯⅇｅ𝐞𝑒𝒆𝓮𝔢𝕖𝖊𝖾𝗲𝘦𝙚𝚎", "tᵗₜｔ𝐭𝑡𝒕𝓉𝓽𝔱𝕥𝖙𝗍𝘁𝘵𝙩𝚝"]

def isSetName (name : List Char) : Bool :=
  name.length == setLetters.length && (name.zip setLetters).all fun (c, forms) => forms.toList.contains c

def name? (name : List Char) : Option Word :=
  if constantNames.contains (String.ofList name) then some .constant
  else if isSetName name then some .set
  else none

def punctuation? : Char → Option Word
  | '(' => some (.opening .round)
  | ')' => some (.closing .round)
  | '\x7b' => some (.opening .curly)
  | '\x7d' => some (.closing .curly)
  | ',' => some .comma
  | ':' => some .colon
  | '+' | '-' => some .sign
  | '\n' => some .lineEnd
  | _ => none

/-- What a text starts with and what is behind: a word, or blanks, a comment or a joined line. -/
def wordAt? (isCharName : List Char → Bool) (s : List Char) : Option (Option Word × List Char) :=
  match s with
  | ' ' :: rest | '\t' :: rest | '\x0c' :: rest => some (none, rest)
  | '#' :: rest => some (none, rest.dropWhile (· != '\n'))
  | '\\' :: '\n' :: c :: rest => some (none, c :: rest)
  | '.' :: '.' :: '.' :: rest => some (some .constant, rest)
  | c :: rest =>
    match punctuation? c with
    | some word => some (some word, rest)
    | none =>
      let name := s.takeWhile isNameChar
      let behind := s.drop name.length
      if Json.isDigit c || c == '.' then
        (number? s).bind fun (n, rest) => if rest.head?.any isNameChar then none else some (some (.number n), rest)
      else if behind.head?.any fun c => c == '"' || c == '\x27' then
        (text? isCharName name behind).map fun (word, rest) => (some word, rest)
      else
        (name? name).map fun word => (some word, behind)
  | [] => none

/-- The words of a text after passing over `skip` characters. -/
def wordsAfter (isCharName : List Char → Bool) (skip : Nat) : List Char → Option (List Word)
  | [] => some []
  | c :: rest =>
    match skip with
    | skip + 1 => wordsAfter isCharName skip rest
    | 0 =>
      match wordAt? isCharName (c :: rest) with
      | none => none
      | some (word, behind) => (wordsAfter isCharName (rest.length - behind.length) rest).map (word.toList ++ ·)

/-- Whether there are blanks in front of the first word on its line.  Lines without words do not
count, a joined line does not change what was found before, and a form feed starts anew. -/
def indentedAfter (indented joined : Bool) (skip : Nat) : List Char → Bool
  | [] => false
  | c :: rest =>
    match skip with
    | skip + 1 => indentedAfter indented joined skip rest
    | 0 =>
      if c == ' ' || c == '\t' then indentedAfter true joined 0 rest
      else if c == '\x0c' then indentedAfter false joined 0 rest
      else if c == '\\' then indentedAfter indented (joined || indented) 1 rest
      else if c == '\n' then indentedAfter false false 0 rest
      else if c == '#' then indentedAfter false false (rest.takeWhile (· != '\n')).length rest
      else joined || indented

/-! ## Values -/

inductive Kind where
  | number (n : Numeral) (signed : Bool)
  /-- A value that may be in a set or be a key. -/
  | fixed
  | changing
  /-- The name that has to be called. -/
  | setName
  deriving DecidableEq, Repr

inductive Part where
  | nothing
  | sign
  | value (k : Kind)
  | text (bytes : Bool)
  /-- A real number and the sign of an imaginary one. -/
  | sum
  /-- The call of a name whose bracket is open. -/
  | call
  deriving DecidableEq, Repr

def Part.take (p : Part) (k : Kind) : Option Part :=
  match p, k with
  | nothing, k => some (value k)
  | sign, .number n false => some (value (.number n true))
  | sum, .number n false => if n.imaginary then some (value .fixed) else none
  | _, _ => none

def Part.kind? : Part → Option Kind
  | value .setName => none
  | value k => some k
  | text _ => some .fixed
  | nothing | sign | sum | call => none

/-- What was read behind an open bracket, or at the outermost level. -/
structure Level where
  bracket : Option Bracket := none
  part : Part := .nothing
  /-- Whether a comma has ended an entry. -/
  commas : Bool := false
  /-- Whether the entries have keys, once it is known. -/
  keyed : Option Bool := none
  /-- Whether the key of the entry was read. -/
  behindKey : Bool := false
  /-- Whether an entry that ended may not be in a set. -/
  changing : Bool := false
  deriving DecidableEq, Repr

/-- The level after the end of an entry; a set holds no value that may change. -/
def Level.endEntry (l : Level) : Option Level := do
  let k ← l.part.kind?
  let ended := { l with part := .nothing, commas := true, behindKey := false, changing := l.changing || k == .changing }
  match l.bracket, l.keyed with
  | some .curly, some true => if l.behindKey then some ended else none
  | some .curly, _ => if k == .changing then none else some { ended with keyed := some false }
  | _, _ => some ended

def Level.endKey (l : Level) : Option Level := do
  let k ← l.part.kind?
  if l.bracket == some .curly && !l.behindKey && l.keyed != some false && k != .changing then
    some { l with part := .nothing, keyed := some true, behindKey := true }
  else
    none

/-- The value of a level at its end: an only entry in round brackets stands for itself. -/
def Level.kind? (l : Level) : Option Kind :=
  let group := fun (l : Level) => if l.bracket == some .curly || l.changing then Kind.changing else .fixed
  match l.part with
  | .nothing => if l.behindKey then none else some (group l)
  | .value k =>
    if l.bracket == some .round && !l.commas then some k else l.endEntry.map group
  | _ => l.endEntry.map group

structure State where
  level : Level := {}
  /-- The levels around, the innermost first. -/
  outer : List Level := []
  /-- Whether the line of the outermost level has ended. -/
  ended : Bool := false
  deriving DecidableEq, Repr

def mostOpen : Nat := 200

def State.withPart (s : State) (p : Part) : State :=
  { s with level := { s.level with part := p } }

def State.take (s : State) (k : Kind) : Option State :=
  (s.level.part.take k).map s.withPart

def State.opening (s : State) (b : Bracket) : Option State :=
  if mostOpen ≤ s.outer.length then none
  else
    match s.level.part, b with
    | .value .setName, .round => some (s.withPart .call)
    | .nothing, _ | .sign, _ | .sum, _ =>
      some { s with level := { bracket := some b }, outer := s.level :: s.outer }
    | _, _ => none

def State.closing (s : State) (b : Bracket) : Option State :=
  match s.level.part, b, s.outer with
  | .call, .round, _ => some (s.withPart (.value .changing))
  | .call, .curly, _ => none
  | _, _, [] => none
  | _, _, level :: outer => do
    let k ← if s.level.bracket == some b then s.level.kind? else none
    State.take { s with level := level, outer := outer } k

def State.step (s : State) (word : Word) : Option State :=
  if s.ended then (if word == .lineEnd then some s else none)
  else
    match word with
    | .lineEnd => some { s with ended := s.outer.isEmpty && s.level.part != .call }
    | .number n => s.take (.number n false)
    | .constant => s.take .fixed
    | .set => s.take .setName
    | .text bytes =>
      if s.level.part == .nothing || s.level.part == .text bytes then some (s.withPart (.text bytes)) else none
    | .sign =>
      match s.level.part with
      | .nothing => some (s.withPart .sign)
      | .value (.number n _) => if n.imaginary || n.huge then none else some (s.withPart .sum)
      | _ => none
    | .opening b => s.opening b
    | .closing b => s.closing b
    | .comma => s.level.endEntry.map fun level => { s with level := level }
    | .colon => s.level.endKey.map fun level => { s with level := level }

def State.isComplete (s : State) : Bool :=
  s.outer.isEmpty && (s.level.part != .nothing || s.level.commas) && s.level.kind?.isSome

/-- Whether a text without blanks at its end is a constant, given the names of characters. -/
def isConstant (isCharName : List Char → Bool) (s : List Char) : Bool :=
  let text := Text.unixLines (s.dropWhile fun c => c == ' ' || c == '\t')
  !text.contains '\x00' && !indentedAfter false false 0 text &&
    ((wordsAfter isCharName 0 text).bind fun words => (words.dropWhile (· == .lineEnd)).foldlM State.step {}).any
      State.isComplete

end RouteCensus.Terminal.Literal
