/-! # Double-precision numbers

A finite number is a sign, a whole mantissa and a power of two.  Decimals are
read exactly and rounded once, to the nearest number, a tie going to the even
mantissa.
-/

namespace RouteCensus

/-- A finite number stands for `± mantissa * 2 ^ exponent`. -/
inductive Double where
  | nan
  | infinite (negative : Bool)
  | finite (negative : Bool) (mantissa : Nat) (exponent : Int)
  deriving DecidableEq, Repr, Inhabited

namespace Double

def precision : Nat := 53

def leastExponent : Int := -1074

def greatestExponent : Int := 971

/-- The quotient rounded to the nearest whole number, a tie to the even one. -/
def roundQuotient (n d : Nat) : Nat :=
  let q := n / d
  let r := n % d
  if 2 * r < d then q else if d < 2 * r then q + 1 else q + q % 2

/-- The greatest `e` with `2 ^ e ≤ n / d`, for positive `n` and `d`. -/
def magnitude (n d : Nat) : Int :=
  let guess : Int := (n.log2 : Int) - d.log2
  if d * Nat.pow 2 guess.toNat ≤ n * Nat.pow 2 (-guess).toNat then guess else guess - 1

def ofQuotient (negative : Bool) (n d : Nat) : Double :=
  let exponent := max (magnitude n d - (precision - 1)) leastExponent
  let mantissa := roundQuotient (n * Nat.pow 2 (-exponent).toNat) (d * Nat.pow 2 exponent.toNat)
  let (mantissa, exponent) :=
    if mantissa = Nat.pow 2 precision then (Nat.pow 2 (precision - 1), exponent + 1) else (mantissa, exponent)
  if greatestExponent < exponent then .infinite negative else .finite negative mantissa exponent

/-- Beyond this power of ten every decimal overflows, and below its inverse every one vanishes. -/
def decimalReach : Int := 400

/-- The number nearest to `± digits * 10 ^ power`. -/
def ofDecimal (negative : Bool) (digits : Nat) (power : Int) : Double :=
  if digits = 0 then
    .finite negative 0 leastExponent
  else
    let top := power + (Nat.toDigits 10 digits).length
    if decimalReach < top then .infinite negative
    else if top < -decimalReach then .finite negative 0 leastExponent
    else ofQuotient negative (digits * Nat.pow 10 power.toNat) (Nat.pow 10 (-power).toNat)

def ofRatio (n : Int) (d : Nat) : Double :=
  if n = 0 then .finite false 0 leastExponent else ofQuotient (n < 0) n.natAbs d

/-- The exact value of a finite number, as a quotient with a positive divisor. -/
def toRatio? : Double → Option (Int × Nat)
  | finite negative mantissa exponent =>
    let scaled : Int := (mantissa * Nat.pow 2 exponent.toNat : Nat)
    some (if negative then -scaled else scaled, Nat.pow 2 (-exponent).toNat)
  | _ => none

def toInt? : Double → Option Int
  | finite negative mantissa exponent =>
    let scaled := mantissa * Nat.pow 2 exponent.toNat
    let divisor := Nat.pow 2 (-exponent).toNat
    if scaled % divisor = 0 then
      some (if negative then -((scaled / divisor : Nat) : Int) else ((scaled / divisor : Nat) : Int))
    else
      none
  | _ => none

def isFinite : Double → Bool
  | finite .. => true
  | _ => false

end Double
end RouteCensus
