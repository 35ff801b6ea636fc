import RouteCensus.Check.Scalar

/-! # Timestamps

A date with a time of day to the microsecond, and the offset from universal time
where it is known.  Timestamps are read from text or from the seconds, beyond a
limit the milliseconds, since the start of 1970.
-/

namespace RouteCensus

structure Timestamp where
  year : Nat
  month : Nat
  day : Nat
  hour : Nat := 0
  minute : Nat := 0
  second : Nat := 0
  microsecond : Nat := 0
  /-- Minutes ahead of universal time. -/
  offset : Option Int := none
  deriving DecidableEq, Repr

namespace Timestamp

def isLeap (year : Nat) : Bool :=
  year % 4 == 0 && (year % 100 != 0 || year % 400 == 0)

def monthDays (year month : Nat) : Nat :=
  if month == 2 then (if isLeap year then 29 else 28)
  else if [4, 6, 9, 11].contains month then 30
  else 31

def padded (width n : Nat) : List Char :=
  let digits := Nat.toDigits 10 n
  List.replicate (width - digits.length) '0' ++ digits

def takeDigits? (width : Nat) (s : List Char) : Option (Nat × List Char) :=
  let digits := s.take width
  if digits.length == width && digits.all Json.isDigit then some (Json.digitsValue digits, s.drop width) else none

def takeChar? (c : Char) : List Char → Option (List Char)
  | d :: rest => if d == c then some rest else none
  | [] => none

def takeDate? (s : List Char) : Option (Timestamp × List Char) := do
  let (year, s) ← takeDigits? 4 s
  let s ← takeChar? '-' s
  let (month, s) ← takeDigits? 2 s
  let s ← takeChar? '-' s
  let (day, s) ← takeDigits? 2 s
  if 1 ≤ month && month ≤ 12 && 1 ≤ day && day ≤ monthDays year month then
    return ({ year := year, month := month, day := day }, s)
  else
    none

/-- The fraction of a second in microseconds; further digits are cut off. -/
def takeFraction? (s : List Char) : Option (Nat × List Char) :=
  match s with
  | c :: rest =>
    if c == '.' || c == ',' then
      let digits := rest.takeWhile Json.isDigit
      if digits.isEmpty then none
      else
        let kept := digits.take 6
        some (Json.digitsValue kept * Nat.pow 10 (6 - kept.length), rest.dropWhile Json.isDigit)
    else some (0, s)
  | [] => some (0, s)

def takeSeconds? (s : List Char) : Option (Nat × Nat × List Char) := do
  match s with
  | ':' :: rest =>
    let (second, rest) ← takeDigits? 2 rest
    let (micro, rest) ← takeFraction? rest
    return (second, micro, rest)
  | _ => return (0, 0, s)

def negativeSign? (c : Char) : Option Bool :=
  if c == '+' then some false else if c == '-' || c == '−' then some true else none

/-- The offset at the end of the text: a letter for zero, signed hours and minutes, or nothing. -/
def endOffset? (s : List Char) : Option (Option Int) :=
  match s with
  | [] => some none
  | ['Z'] | ['z'] => some (some 0)
  | sign :: rest => do
    let negative ← negativeSign? sign
    let (hours, rest) ← takeDigits? 2 rest
    let (minutes, rest) ← takeDigits? 2 ((takeChar? ':' rest).getD rest)
    if rest.isEmpty && hours ≤ 23 && minutes ≤ 59 then
      let total : Int := hours * 60 + minutes
      return some (if negative then -total else total)
    else
      none

def ofDateTimeText? (s : List Char) : Option Timestamp := do
  let (date, s) ← takeDate? s
  match s with
  | separator :: s =>
    if ['T', 't', ' ', '_'].contains separator then
      let (hour, s) ← takeDigits? 2 s
      let s ← takeChar? ':' s
      let (minute, s) ← takeDigits? 2 s
      let (second, micro, s) ← takeSeconds? s
      let offset ← endOffset? s
      if hour ≤ 23 && minute ≤ 59 && second ≤ 59 then
        return { date with hour := hour, minute := minute, second := second, microsecond := micro, offset := offset }
      else
        none
    else
      none
  | [] => none

/-- A date alone means its first moment. -/
def ofDateText? (s : List Char) : Option Timestamp :=
  match takeDate? s with
  | some (date, []) => some date
  | _ => none

/-- Days before a year of an era of 400 years.  Years start in March, so that a leap day ends one. -/
def yearStart (year : Nat) : Nat :=
  365 * year + year / 4 - year / 100

def yearOfEra (day : Nat) : Nat :=
  (day - day / 1460 + day / 36524 - day / 146096) / 365

def ofYearDay (year day : Nat) : Timestamp :=
  let shifted := (5 * day + 2) / 153
  let month := if shifted < 10 then shifted + 3 else shifted - 9
  { year := year + (if month ≤ 2 then 1 else 0)
    month := month
    day := day - (153 * shifted + 2) / 5 + 1 }

/-- The date that is the given number of days after the first of March of year zero. -/
def ofDays (days : Nat) : Timestamp :=
  let era := days / 146097
  let day := days % 146097
  ofYearDay (yearOfEra day + era * 400) (day - yearStart (yearOfEra day))

/-- Days from the first of March of year zero to the start of 1970. -/
def epochDays : Nat := 719468

/-- The first second of year 1 and the last of year 9999. -/
def epochRange : Int × Int := (-62135596800, 253402300799)

def ofMicroseconds? (micros : Int) : Option Timestamp :=
  let seconds := micros.fdiv 1000000
  if epochRange.1 ≤ seconds ∧ seconds ≤ epochRange.2 then
    let sinceStart := (seconds + epochDays * 86400).toNat
    let time := sinceStart % 86400
    some { ofDays (sinceStart / 86400) with
      hour := time / 3600, minute := time / 60 % 60, second := time % 60,
      microsecond := (micros.fmod 1000000).toNat, offset := some 0 }
  else
    none

/-- Numbers beyond this one count milliseconds. -/
def secondsLimit : Nat := 20000000000

/-- Microseconds in the unit that a number, given as a quotient, counts. -/
def unit (n : Int) (d : Nat) : Nat :=
  if secondsLimit * d < n.natAbs then 1000 else 1000000

def ofInt? (n : Int) : Option Timestamp :=
  ofMicroseconds? (n * unit n 1)

/-- A number of units in microseconds.  The fraction, and then its product with the unit, are
rounded to double precision; what is left is rounded to the nearest, a half upwards. -/
def microseconds (n : Int) (d : Nat) (unit : Nat) : Int :=
  let whole := n.fdiv d
  let rounded := do
    let (part, divisor) ← (Double.ofRatio (n - whole * d) d).toRatio?
    (Double.ofRatio (part * unit) divisor).toRatio?
  match rounded with
  | some (part, divisor) => whole * unit + (2 * part + divisor).fdiv (2 * divisor)
  | none => whole * unit

def ofDouble? (x : Double) : Option Timestamp := do
  let (n, d) ← x.toRatio?
  ofMicroseconds? (microseconds n d (unit n d))

/-- The sum of a number and decimal digits behind the point, the first of them at the given place;
each step is rounded to double precision. -/
def addDecimals (x : Double) (place : Nat) : List Char → Double
  | [] => x
  | c :: rest =>
    let next := do
      let (n, d) ← x.toRatio?
      let (m, e) ← (Double.ofRatio (Json.digitsValue [c]) (Nat.pow 10 place)).toRatio?
      return Double.ofRatio (n * e + m * d) (d * e)
    addDecimals (next.getD x) (place + 1) rest

def greatestWhole : Nat := 9223372036854775807

/-- The moment of a fractional number that is written as text: milliseconds are first turned into
seconds, rounded to double precision. -/
def ofDecimal? (negative : Bool) (whole : Nat) (decimals : List Char) : Option Timestamp := do
  let (n, d) ← (addDecimals (.ofRatio whole 1) 1 decimals).toRatio?
  let n := if negative then -n else n
  if unit n d = 1000 then
    let (n, d) ← (Double.ofRatio n (d * 1000)).toRatio?
    ofMicroseconds? (microseconds n d 1000000)
  else
    ofMicroseconds? (microseconds n d 1000000)

/-- The moment of a number written as text behind its sign: digits with at most one point. -/
def ofUnsignedText? (negative : Bool) (s : List Char) : Option Timestamp :=
  let whole := Json.digitsValue (s.takeWhile Json.isDigit)
  if s.isEmpty || greatestWhole < whole then none
  else
    match s.dropWhile Json.isDigit with
    | [] => ofInt? (if negative then -(whole : Int) else whole)
    | '.' :: decimals => if decimals.all Json.isDigit then ofDecimal? negative whole decimals else none
    | _ => none

def ofNumberText? (s : List Char) : Option Timestamp :=
  match s with
  | '-' :: rest => ofUnsignedText? true rest
  | '+' :: rest => ofUnsignedText? false rest
  | _ => ofUnsignedText? false s

/-- The moment that a text states as a time of day, a number or a date alone. -/
def ofText? (s : List Char) : Option Timestamp :=
  ofDateTimeText? s <|> ofNumberText? s <|> ofDateText? s

def check : Json → Checked Timestamp
  | .str (.text s) =>
    match ofText? s.toList with
    | some t => if t.year = 0 then .fail .datetimeRange else .ok t
    | none => .fail .datetimeText
  | .str (.broken _) => .fail .notUnicode
  | .int n =>
    if (Double.ofRatio n 1).isFinite then (ofInt? n).elim (.fail .datetimeRange) .ok else .fail .notDatetime
  | .real x => (ofDouble? x).elim (.fail .datetimeRange) .ok
  | _ => .fail .notDatetime

def fractionChars (microsecond : Nat) : List Char :=
  if microsecond = 0 then [] else '.' :: padded 6 microsecond

def dateTimeChars (t : Timestamp) : List Char :=
  padded 4 t.year ++ '-' :: padded 2 t.month ++ '-' :: padded 2 t.day ++ 'T' ::
    padded 2 t.hour ++ ':' :: padded 2 t.minute ++ ':' :: padded 2 t.second ++ fractionChars t.microsecond

def offsetChars (minutes : Int) : List Char :=
  (if minutes < 0 then '-' else '+') :: padded 2 (minutes.natAbs / 60) ++ ':' :: padded 2 (minutes.natAbs % 60)

/-- The stored form of an offset: nothing if it is not known, and a letter for zero. -/
def wireOffset : Option Int → List Char
  | none => []
  | some minutes => if minutes = 0 then ['Z'] else offsetChars minutes

def wireText (t : Timestamp) : String :=
  String.ofList (t.dateTimeChars ++ wireOffset t.offset)

/-- The form in which a timestamp is shown: every offset in digits. -/
def displayText (t : Timestamp) : String :=
  String.ofList (t.dateTimeChars ++ (t.offset.map offsetChars).getD [])

end Timestamp
end RouteCensus
