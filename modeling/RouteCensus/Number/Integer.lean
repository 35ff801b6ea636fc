import RouteCensus.Json.Reader
import RouteCensus.Text.Blank
import RouteCensus.Text.Pieces

/-! # Whole numbers written as text

A plain number is a run of digits without leading zeros, behind a minus sign or
not.  Every other spelling is brought to that form first: blanks around it go, and
so do a plus sign, leading zeros, a fraction of zeros and single underscores.
-/

namespace RouteCensus.Integer

inductive Reading where
  | value (n : Int)
  /-- A plain number of more characters than are read. -/
  | tooLong
  | unreadable
  deriving DecidableEq, Repr

def longest : Nat := 4300

def leadingRun (s : List Char) : Bool × List Char × List Char :=
  match s with
  | '-' :: rest => (true, rest.takeWhile Json.isDigit, rest.dropWhile Json.isDigit)
  | _ => (false, s.takeWhile Json.isDigit, s.dropWhile Json.isDigit)

def readPlain (s : List Char) : Reading :=
  let (negative, digits, rest) := leadingRun s
  match digits with
  | [] => .unreadable
  | first :: others =>
    if first == '0' && !others.isEmpty then .unreadable
    else if longest < s.length - rest.length then .tooLong
    else if !rest.isEmpty then .unreadable
    else .value (if negative then -(Json.digitsValue digits : Int) else Json.digitsValue digits)

/-- Passes over zeros and underscores; `last` is the character in front of the text. -/
def dropZerosAfter (last : Char) : List Char → Option (List Char)
  | [] => some [last]
  | c :: rest =>
    if c == '0' || c == '_' then dropZerosAfter c rest
    else if c == '.' then some (last :: c :: rest)
    else if c == '-' || Json.isDigit c then some (c :: rest)
    else none

/-- The text without the zeros at its start, one of them kept where no other digit stands before
the fraction. -/
def dropZeros : List Char → Option (List Char)
  | [] => none
  | c :: rest =>
    if c == '0' then dropZerosAfter c rest
    else if c == '-' || Json.isDigit c then some (c :: rest)
    else none

/-- The text without a sign that says nothing and without leading zeros. -/
def dropSign : List Char → Option (List Char)
  | '+' :: '-' :: _ => none
  | '+' :: rest => dropZeros rest
  | '-' :: rest => (dropZeros rest).map ('-' :: ·)
  | s => dropZeros s

def dropZeroFraction (s : List Char) : List Char :=
  match Text.after? (· == '.') s with
  | some fraction => if !fraction.isEmpty && fraction.all (· == '0') then Text.before (· == '.') s else s
  | none => s

/-- The text without underscores, if they stand one by one and inside it. -/
def dropUnderscores (s : List Char) : List Char :=
  if (s.splitOn '_').all fun group => !group.isEmpty then s.filter (· != '_') else s

def plainForm? (s : List Char) : Option (List Char) :=
  (dropSign (Text.trimBy Text.isSpacing s)).map fun s => dropUnderscores (dropZeroFraction s)

/-- Reads a whole number in any spelling; only one that is plain as it stands is called too long. -/
def read (s : List Char) : Reading :=
  match readPlain s with
  | .unreadable =>
    match (plainForm? s).map readPlain with
    | some (.value n) => .value n
    | _ => .unreadable
  | reading => reading

def read? (s : String) : Option Int :=
  match read s.toList with
  | .value n => some n
  | _ => none

end RouteCensus.Integer
