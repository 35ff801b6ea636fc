import RouteCensus.Json.Value

/-! # Reading JSON text

Reading follows the grammar from left to right and reports the first place
where it cannot go on.  A fault carries the text that was left there, from which
line, column and offset follow.  The three constants for numbers outside the
reals are accepted, and of equally named members the last value counts.  Whole
numbers of too many digits and values that are nested too deeply are refused; how
many arrays and objects may be nested in each other is up to the caller.
-/

namespace RouteCensus.Json

inductive Fault where
  | value
  | name
  | colon
  | comma
  | extra
  | unterminated
  | control
  | escape
  | unicodeEscape
  | byteOrderMark
  | longNumber (digits : Nat)
  | nesting
  deriving DecidableEq, Repr

def mostDigits : Nat := 4300

def Fault.message : Fault → String
  | value => "Expecting value"
  | name => "Expecting property name enclosed in double quotes"
  | colon => "Expecting ':' delimiter"
  | comma => "Expecting ',' delimiter"
  | extra => "Extra data"
  | unterminated => "Unterminated string starting at"
  | control => "Invalid control character at"
  | escape => "Invalid \\escape"
  | unicodeEscape => "Invalid \\uXXXX escape"
  | byteOrderMark => "Unexpected UTF-8 BOM (decode using utf-8-sig)"
  | longNumber digits =>
    s!"Exceeds the limit ({mostDigits} digits) for integer string conversion: value has {digits} digits; " ++
      "use sys.set_int_max_str_digits() to increase the limit"
  | nesting => "Nested too deeply"

/-- Whether a fault is a limit of reading, and not of the grammar. -/
def Fault.isLimit : Fault → Bool
  | longNumber _ | nesting => true
  | _ => false

/-- A fault and the text from the place where it was noticed. -/
abbrev Stop := Fault × List Char

abbrev Read (α : Type) := Except Stop (α × List Char)

def isGap (c : Char) : Bool :=
  c == ' ' || c == '\t' || c == '\n' || c == '\r'

def skipGap (s : List Char) : List Char :=
  s.dropWhile isGap

def hexDigit? (c : Char) : Option Nat :=
  if '0' ≤ c && c ≤ '9' then some (c.toNat - 48)
  else if 'a' ≤ c && c ≤ 'f' then some (c.toNat - 87)
  else if 'A' ≤ c && c ≤ 'F' then some (c.toNat - 55)
  else none

/-- Four hexadecimal digits that are not the end of the text. -/
def hexUnit? : List Char → Option Nat
  | a :: b :: c :: d :: _ :: _ => do
    return ((← hexDigit? a) * 16 + (← hexDigit? b)) * 256 + (← hexDigit? c) * 16 + (← hexDigit? d)
  | _ => none

def simpleEscape? : Char → Option Char
  | '"' => some '"'
  | '\\' => some '\\'
  | '/' => some '/'
  | 'b' => some '\x08'
  | 'f' => some '\x0c'
  | 'n' => some '\n'
  | 'r' => some '\r'
  | 't' => some '\t'
  | _ => none

def isHighHalf (n : Nat) : Bool :=
  decide (0xD800 ≤ n) && decide (n ≤ 0xDBFF)

def isLowHalf (n : Nat) : Bool :=
  decide (0xDC00 ≤ n) && decide (n ≤ 0xDFFF)

def joinHalves (high low : Nat) : Nat :=
  0x10000 + (high - 0xD800) * 0x400 + (low - 0xDC00)

/-- The code point of the escape `u` with the digits that follow, and how many characters after
the backslash it takes.  A high half takes a low half written right behind it. -/
def unicodeEscape (s : List Char) : Except Stop (Nat × Nat) :=
  match hexUnit? s with
  | none => .error (.unicodeEscape, 'u' :: s)
  | some unit =>
    match isHighHalf unit, s.drop 4 with
    | true, '\\' :: 'u' :: more =>
      if more.length < 5 then
        .ok (unit, 5)
      else
        match hexUnit? more with
        | none => .error (.unicodeEscape, 'u' :: more)
        | some low => if isLowHalf low then .ok (joinHalves unit low, 11) else .ok (unit, 5)
    | _, _ => .ok (unit, 5)

/-- The code point that a string shows at its next character `c`, and how many further characters
spell it.  `start` is the text from the opening quote. -/
def stringUnit (start : List Char) (c : Char) (rest : List Char) : Except Stop (Nat × Nat) :=
  if c == '\\' then
    match rest with
    | [] => .error (.unterminated, start)
    | 'u' :: more => unicodeEscape more
    | e :: _ =>
      match simpleEscape? e with
      | some x => .ok (x.toNat, 1)
      | none => .error (.escape, c :: rest)
  else if c.toNat < 0x20 then
    .error (.control, c :: rest)
  else
    .ok (c.toNat, 0)

/-- The rest of a string up to its closing quote, `skip` characters on, after the code points of `seen`. -/
def readUnits (start : List Char) (seen : List Nat) (skip : Nat) : List Char → Read JsonString
  | [] => .error (.unterminated, start)
  | c :: rest =>
    match skip with
    | k + 1 => readUnits start seen k rest
    | 0 =>
      if c == '"' then
        .ok (JsonString.ofCodes seen.reverse, rest)
      else
        match stringUnit start c rest with
        | .error stop => .error stop
        | .ok (n, k) => readUnits start (n :: seen) k rest

def readString (s : List Char) : Read JsonString :=
  readUnits ('"' :: s) [] 0 s

def isDigit (c : Char) : Bool :=
  '0' ≤ c && c ≤ '9'

def digitsValue (digits : List Char) : Nat :=
  digits.foldl (fun n c => n * 10 + (c.toNat - 48)) 0

/-- The digits before the point: a zero stands alone. -/
def wholeDigits? (s : List Char) : Option (List Char × List Char) :=
  match s with
  | '0' :: rest => some (['0'], rest)
  | c :: _ => if isDigit c then some (s.takeWhile isDigit, s.dropWhile isDigit) else none
  | [] => none

def fractionDigits (s : List Char) : List Char × List Char :=
  match s with
  | '.' :: rest => if (rest.takeWhile isDigit).isEmpty then ([], s) else (rest.takeWhile isDigit, rest.dropWhile isDigit)
  | _ => ([], s)

def exponentSign (s : List Char) : Bool × List Char :=
  match s with
  | '-' :: rest => (true, rest)
  | '+' :: rest => (false, rest)
  | _ => (false, s)

def exponentPart? (s : List Char) : Option (Int × List Char) :=
  match s with
  | e :: rest =>
    if e == 'e' || e == 'E' then
      let (negative, rest) := exponentSign rest
      let digits := rest.takeWhile isDigit
      if digits.isEmpty then none
      else some (if negative then -(digitsValue digits : Int) else digitsValue digits, rest.dropWhile isDigit)
    else none
  | [] => none

/-- A number behind its sign: whole unless it has a fraction or an exponent. -/
def readUnsigned? (negative : Bool) (s : List Char) : Option (Json × List Char) := do
  let (whole, s) ← wholeDigits? s
  let (fraction, s) := fractionDigits s
  match exponentPart? s with
  | some (power, s) =>
    return (.real (.ofDecimal negative (digitsValue (whole ++ fraction)) (power - fraction.length)), s)
  | none =>
    if fraction.isEmpty then
      return (.int (if negative then -(digitsValue whole : Int) else digitsValue whole), s)
    else
      return (.real (.ofDecimal negative (digitsValue (whole ++ fraction)) (-fraction.length)), s)

def readNumber? (s : List Char) : Option (Json × List Char) :=
  match s with
  | '-' :: rest => readUnsigned? true rest
  | _ => readUnsigned? false s

def checkNumber (s : List Char) (found : Json × List Char) : Read Json :=
  match found.1 with
  | .int _ =>
    let digits := (s.dropWhile (· == '-')).takeWhile isDigit
    if mostDigits < digits.length then .error (.longNumber digits.length, s) else .ok found
  | _ => .ok found

def constants : List (List Char × Json) :=
  [("null".toList, .null), ("true".toList, .bool true), ("false".toList, .bool false),
    ("NaN".toList, .real .nan), ("Infinity".toList, .real (.infinite false)),
    ("-Infinity".toList, .real (.infinite true))]

def readConstant? (s : List Char) : Option (Json × List Char) :=
  (constants.find? fun k => k.1.isPrefixOf s).map fun k => (k.2, s.drop k.1.length)

mutual

/-- A value at the start of the text, inside of which further ones may be nested `depth` times.
Every step that reads a character lowers `fuel`, of which twice the length of the text is enough. -/
def readValue (fuel depth : Nat) (s : List Char) : Read Json :=
  match fuel with
  | 0 => .error (.value, s)
  | fuel + 1 =>
    match s with
    | '"' :: rest => (readString rest).map fun (x, rest) => (.str x, rest)
    | '{' :: rest =>
      match depth, skipGap rest with
      | 0, _ => .error (.nesting, s)
      | _ + 1, '}' :: rest => .ok (.obj [], rest)
      | depth + 1, rest => (readMembers fuel depth [] rest).map fun (members, rest) => (.obj members, rest)
    | '[' :: rest =>
      match depth, skipGap rest with
      | 0, _ => .error (.nesting, s)
      | _ + 1, ']' :: rest => .ok (.arr [], rest)
      | depth + 1, rest => (readItems fuel depth [] rest).map fun (items, rest) => (.arr items, rest)
    | s =>
      match readConstant? s with
      | some found => .ok found
      | none =>
        match readNumber? s with
        | some found => checkNumber s found
        | none => .error (.value, s)

def readItems (fuel depth : Nat) (seen : List Json) (s : List Char) : Read (List Json) :=
  match fuel with
  | 0 => .error (.value, s)
  | fuel + 1 =>
    match readValue fuel depth s with
    | .error stop => .error stop
    | .ok (item, rest) =>
      match skipGap rest with
      | ']' :: rest => .ok ((item :: seen).reverse, rest)
      | ',' :: rest => readItems fuel depth (item :: seen) (skipGap rest)
      | rest => .error (.comma, rest)

def readMembers (fuel depth : Nat) (seen : List (JsonString × Json)) (s : List Char) :
    Read (List (JsonString × Json)) :=
  match fuel with
  | 0 => .error (.value, s)
  | fuel + 1 =>
    match s with
    | '"' :: rest =>
      match readString rest with
      | .error stop => .error stop
      | .ok (name, rest) =>
        match skipGap rest with
        | ':' :: rest =>
          match readValue fuel depth (skipGap rest) with
          | .error stop => .error stop
          | .ok (value, rest) =>
            let members := setMember name value seen
            match skipGap rest with
            | '}' :: rest => .ok (members, rest)
            | ',' :: rest => readMembers fuel depth members (skipGap rest)
            | rest => .error (.comma, rest)
        | rest => .error (.colon, rest)
    | s => .error (.name, s)

end

/-- Where and why reading stopped; line and column count from one, the offset from zero. -/
structure ReadError where
  fault : Fault
  line : Nat
  column : Nat
  offset : Nat
  deriving DecidableEq, Repr

def ReadError.message (e : ReadError) : String :=
  s!"{e.fault.message}: line {e.line} column {e.column} (char {e.offset})"

def ReadError.ofStop (text : List Char) (stop : Stop) : ReadError :=
  let offset := text.length - stop.2.length
  let passed := text.take offset
  { fault := stop.1
    line := passed.count '\n' + 1
    column := (passed.reverse.takeWhile (· != '\n')).length + 1
    offset := offset }

def readStop (levels : Nat) (text : List Char) : Except Stop Json :=
  match text with
  | '\ufeff' :: _ => .error (.byteOrderMark, text)
  | _ =>
    match readValue (2 * text.length + 2) levels (skipGap text) with
    | .error stop => .error stop
    | .ok (value, rest) =>
      match skipGap rest with
      | [] => .ok value
      | rest => .error (.extra, rest)

/-- The value that a text spells, with at most `levels` arrays and objects in each other. -/
def read (levels : Nat) (text : List Char) : Except ReadError Json :=
  (readStop levels text).mapError (ReadError.ofStop text)

end RouteCensus.Json
