import RouteCensus.Check.Issue
import RouteCensus.Number.Integer

/-! # Checking strings, numbers and truth values

Numbers and truth values are also accepted in the usual spellings of other
types: `"1_000"` is a whole number, `1.0` is one, and `"yes"` is true.
-/

namespace RouteCensus.Check

def string : Json → Checked String
  | .str (.text s) => .ok s
  | .str (.broken _) => .fail .notUnicode
  | _ => .fail .notString

def nullable {α : Type} (check : Json → Checked α) : Json → Checked (Option α)
  | .null => .ok none
  | value => Except.map some (check value)

/-- One of the words of a closed set. -/
def literal {α : Type} (ofWord? : String → Option α) : Json → Checked α
  | .str (.text s) =>
    match ofWord? s with
    | some a => .ok a
    | none => .fail .notLiteral
  | _ => .fail .notLiteral

def items {α : Type} (check : Json → Checked α) (values : List Json) : Checked (List α) :=
  .all (values.mapIdx fun i value => (check value).under (.index i))

def list {α : Type} (check : Json → Checked α) : Json → Checked (List α)
  | .arr values => items check values
  | _ => .fail .notList

/-- The first number that does not fit into 64 bits with a sign. -/
def wordEnd : Int := 9223372036854775808

/-- The whole numbers of a double-precision value that are accepted. -/
def inWordRange (n : Int) : Bool :=
  decide (-wordEnd < n) && decide (n < wordEnd)

def integer : Json → Checked Int
  | .int n => .ok n
  | .bool b => .ok (if b then 1 else 0)
  | .real x =>
    if x.isFinite then
      match x.toInt? with
      | some n => if inWordRange n then .ok n else .fail .intSize
      | none => .fail .intFraction
    else .fail .notFinite
  | .str (.text s) =>
    match Integer.read s.toList with
    | .value n => .ok n
    | .tooLong => .fail .intSize
    | .unreadable => .fail .intText
  | .str (.broken _) => .fail .notUnicode
  | _ => .fail .notInt

def trueWords : List String := ["1", "true", "t", "yes", "y", "on"]

def falseWords : List String := ["0", "false", "f", "no", "n", "off"]

def asciiLower (s : String) : String :=
  String.ofList (s.toList.map Char.toLower)

/-- The truth value of a number: none but zero and one has one. -/
def zeroOrOne (n : Int) : Checked Bool :=
  if n = 1 then .ok true else if n = 0 then .ok false else .fail .boolText

def isWord (n : Int) : Bool :=
  decide (-wordEnd ≤ n) && decide (n < wordEnd)

def truth : Json → Checked Bool
  | .bool b => .ok b
  | .int n => if isWord n then zeroOrOne n else .fail .notBool
  | .real x =>
    match x.toInt? with
    | some n => if inWordRange n then zeroOrOne n else .fail .notBool
    | none => .fail .notBool
  | .str (.text s) =>
    let word := asciiLower s
    if trueWords.contains word then .ok true
    else if falseWords.contains word then .ok false
    else .fail .boolText
  | .str (.broken _) => .fail .notUnicode
  | _ => .fail .notBool

/-- The member under its first or, failing that, its second name, with the name found. -/
def member? (members : List (JsonString × Json)) (first second : String) : Option (String × Json) :=
  match Json.member? first (.obj members) with
  | some value => some (first, value)
  | none => (Json.member? second (.obj members)).map fun value => (second, value)

def required {α : Type} (members : List (JsonString × Json)) (first second : String)
    (check : Json → Checked α) : Checked α :=
  match member? members first second with
  | some (name, value) => (check value).under (.name name)
  | none => (Checked.fail .missing).under (.name first)

def optional {α : Type} (members : List (JsonString × Json)) (first second : String) (default : α)
    (check : Json → Checked α) : Checked α :=
  match member? members first second with
  | some (name, value) => (check value).under (.name name)
  | none => .ok default

end RouteCensus.Check
