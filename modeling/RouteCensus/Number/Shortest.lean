import RouteCensus.Number.Double

/-! # Shortest decimal text

A number is written with the fewest digits that read back as the same number,
and of those with the decimal nearest to it.
-/

namespace RouteCensus.Double

/-- A decimal: `digits * 10 ^ power`. -/
structure Decimal where
  digits : Nat
  power : Int
  deriving DecidableEq, Repr

/-- A positive quotient, and the open interval of quotients that round to it, all over `scale`.
The ends belong to the interval if `closed` holds. -/
structure Interval where
  low : Nat
  value : Nat
  high : Nat
  scale : Nat
  closed : Bool

def interval (mantissa : Nat) (exponent : Int) : Interval :=
  let lowest := decide (mantissa = Nat.pow 2 (precision - 1) ∧ leastExponent < exponent)
  let up := Nat.pow 2 (exponent - 2).toNat
  { low := (4 * mantissa - if lowest then 1 else 2) * up
    value := 4 * mantissa * up
    high := (4 * mantissa + 2) * up
    scale := Nat.pow 2 (2 - exponent).toNat
    closed := decide (mantissa % 2 = 0) }

/-- The least `p` with `n / d < 10 ^ p`, searched from `start` in at most `fuel` steps. -/
def decimalPlace (n d : Nat) : Nat → Int → Int
  | 0, place => place
  | fuel + 1, place =>
    if n * Nat.pow 10 (-place).toNat < d * Nat.pow 10 place.toNat then place else decimalPlace n d fuel (place + 1)

/-- The decimal with `count` digits that lies in the interval, the nearer one if there are two. -/
def Interval.candidate? (i : Interval) (place : Int) (count : Nat) : Option Decimal :=
  let power := place - count
  let unit := i.scale * Nat.pow 10 power.toNat
  let grow := Nat.pow 10 (-power).toNat
  let down := i.value * grow / unit
  let inside := fun digits : Nat =>
    if i.closed then decide (i.low * grow ≤ digits * unit) && decide (digits * unit ≤ i.high * grow)
    else decide (i.low * grow < digits * unit) && decide (digits * unit < i.high * grow)
  let below := i.value * grow - down * unit
  let above := (down + 1) * unit - i.value * grow
  match inside down, inside (down + 1) with
  | true, true =>
    if below < above ∨ (below = above ∧ down % 2 = 0) then some ⟨down, power⟩ else some ⟨down + 1, power⟩
  | true, false => some ⟨down, power⟩
  | false, true => some ⟨down + 1, power⟩
  | false, false => none

/-- Seventeen digits always suffice. -/
def shortest (mantissa : Nat) (exponent : Int) : Decimal :=
  let i := interval mantissa exponent
  let place := decimalPlace i.value i.scale 700 (-330)
  ((List.range 17).findSome? fun n => i.candidate? place (n + 1)).getD ⟨0, 0⟩

/-- Digits without trailing zeros, and the place of the point before which they all stand when it is
their number. -/
def Decimal.significant (d : Decimal) : List Char × Int :=
  let text := Nat.toDigits 10 d.digits
  let kept := (text.reverse.dropWhile (· == '0')).reverse
  (kept, d.power + text.length)

/-- Positional notation from `10 ^ -4` up to `10 ^ 16`, with at least one digit after the point;
an exponent with sign and two digits otherwise. -/
def Decimal.text (d : Decimal) : List Char :=
  let (digits, place) := d.significant
  let count : Int := digits.length
  if -4 < place ∧ place ≤ 16 then
    if place ≤ 0 then
      "0.".toList ++ List.replicate (-place).toNat '0' ++ digits
    else if count ≤ place then
      digits ++ List.replicate (place - count).toNat '0' ++ ".0".toList
    else
      digits.take place.toNat ++ '.' :: digits.drop place.toNat
  else
    let power := (Nat.toDigits 10 (place - 1).natAbs)
    let lead := match digits with
      | [] => []
      | [d] => [d]
      | d :: rest => d :: '.' :: rest
    lead ++ 'e' :: (if place - 1 < 0 then '-' else '+') ::
      (if power.length < 2 then '0' :: power else power)

def text : Double → List Char
  | nan => "nan".toList
  | infinite negative => (if negative then "-inf" else "inf").toList
  | finite negative mantissa exponent =>
    (if negative then ['-'] else []) ++
      if mantissa = 0 then "0.0".toList else (shortest mantissa exponent).text

end RouteCensus.Double
