import Switchboard.Decimal.Whole

/-!
# Binary floating point from and to decimal text

A finite double is a sign, a whole mantissa and a power of two. Reading rounds a decimal to the
nearest double, a tie to the even mantissa. Writing takes the fewest digits that read back, and
of those the nearest to the value.
-/

namespace Switchboard

/-- A number of double precision: `±mantissa * 2 ^ exponent` if finite. -/
inductive Double
  | nan
  | infinite (negative : Bool)
  | finite (negative : Bool) (mantissa : Nat) (exponent : Int)
deriving DecidableEq, Repr

namespace Double

def minExponent : Int := -1074

def maxExponent : Int := 971

/-- `num / den` rounded to the nearest whole number, a half to the even one. -/
def roundHalfEven (num den : Nat) : Nat :=
  let q := num / den
  let twice := 2 * (num % den)
  if twice < den then q else if den < twice then q + 1 else q + q % 2

/-- `num / den` rounded to the nearest whole number, a half away from zero. -/
def roundHalfUp (num den : Nat) : Nat :=
  (2 * num + den) / (2 * den)

/-- The ratio `num / den` divided by `2 ^ e`, as a new ratio. -/
def scale (num den : Nat) (e : Int) : Nat × Nat :=
  if 0 ≤ e then (num, den * Nat.pow 2 e.toNat) else (num * Nat.pow 2 (-e).toNat, den)

/-- The double nearest to `num / den`. -/
def ofRatio (negative : Bool) (num den : Nat) : Double :=
  if num = 0 then finite negative 0 minExponent
  else
    let guess : Int := (num.log2 : Int) - (den.log2 : Int) - 52
    let fit (e : Int) : Int :=
      let (n, d) := scale num den e
      if n < d * Nat.pow 2 52 then e - 1 else e
    let e := max minExponent (fit guess)
    let (n, d) := scale num den e
    let m := roundHalfEven n d
    let (m, e) := if m = Nat.pow 2 53 then (Nat.pow 2 52, e + 1) else (m, e)
    if maxExponent < e then infinite negative else finite negative m e

/-- The double nearest to `digits * 10 ^ exponent`. Exponents that can only give zero or an
infinity are not worked out. -/
def ofDecimal (negative : Bool) (digits : Nat) (exponent : Int) : Double :=
  if digits = 0 then finite negative 0 minExponent
  else
    let size : Int := (Nat.toDigits 10 digits).length + exponent
    if 320 < size then infinite negative
    else if size < -340 then finite negative 0 minExponent
    else if 0 ≤ exponent then ofRatio negative (digits * Nat.pow 10 exponent.toNat) 1
    else ofRatio negative digits (Nat.pow 10 (-exponent).toNat)

/-- The value of a finite double as a ratio. -/
def ratio (mantissa : Nat) (exponent : Int) : Nat × Nat :=
  if 0 ≤ exponent then (mantissa * Nat.pow 2 exponent.toNat, 1)
  else (mantissa, Nat.pow 2 (-exponent).toNat)

/-- The least power of ten above `num / den`, as its exponent: the value is below `10 ^ k`. -/
def magnitude (num den : Nat) : Int :=
  if den ≤ num then ((Nat.toDigits 10 (num / den)).length : Int)
  else
    let zeros := (Nat.toDigits 10 (den / num)).length
    if num * Nat.pow 10 zeros < den then -(zeros : Int)
    else if num * Nat.pow 10 (zeros - 1) < den then 1 - (zeros : Int)
    else 2 - (zeros : Int)

/-- The nearest decimal with `count` digits that reads back as the given double. -/
def candidate (mantissa : Nat) (exponent : Int) (count : Nat) : Option (Nat × Int) :=
  let (num, den) := ratio mantissa exponent
  let e := magnitude num den - count
  let (n, d) :=
    if 0 ≤ e then (num, den * Nat.pow 10 e.toNat) else (num * Nat.pow 10 (-e).toNat, den)
  let below := n / d
  let nearest := if 2 * (n % d) ≤ d then [below, below + 1] else [below + 1, below]
  (nearest.find? fun digits =>
    ofDecimal false digits e == finite false mantissa exponent).map (·, e)

/-- The fewest digits that read back as the given double, with their exponent of ten. -/
def shortest (mantissa : Nat) (exponent : Int) : Nat × Int :=
  ((List.range 17).findSome? fun k => candidate mantissa exponent (k + 1)).getD (0, 0)

/-- `digits * 10 ^ exponent` without an exponent. -/
def positional (digits : Nat) (exponent : Int) : List Char :=
  let ds := Nat.toDigits 10 digits
  if 0 ≤ exponent then ds ++ List.replicate exponent.toNat '0'
  else
    let places := (-exponent).toNat
    let padded := List.replicate (places + 1 - ds.length) '0' ++ ds
    let whole := padded.take (padded.length - places)
    let fraction := (padded.drop (padded.length - places)).reverse.dropWhile (· == '0')
    if fraction.isEmpty then whole else whole ++ '.' :: fraction.reverse

/-- The text of a double: never with an exponent, and without a fraction if it is whole. -/
def display : Double → String
  | nan => "NaN"
  | infinite negative => if negative then "-inf" else "inf"
  | finite negative m e =>
    let (digits, exponent) := if m = 0 then (0, 0) else shortest m e
    String.ofList ((if negative then ['-'] else []) ++ positional digits exponent)

def isZero : Double → Bool
  | finite _ m _ => m == 0
  | _ => false

/-- The nearest whole number, a half away from zero, kept within `0` and `limit`. -/
def toNatClamped (limit : Nat) : Double → Nat
  | nan => 0
  | infinite negative => if negative then 0 else limit
  | finite negative m e =>
    let (num, den) := ratio m e
    if negative then 0 else min limit (roundHalfUp num den)

/-- Reads `whole`, a fraction and an exponent, each of which may be missing but not both of the
first two. -/
def readDecimal (negative : Bool) (cs : List Char) : Option Double :=
  let (whole, rest) := Decimal.takeDigits cs
  let (fraction, rest) := match rest with
    | '.' :: more => Decimal.takeDigits more
    | _ => ([], rest)
  if whole.isEmpty && fraction.isEmpty then none
  else
    let value (e : Int) :=
      ofDecimal negative (Decimal.value (whole ++ fraction)) (e - fraction.length)
    match rest with
    | [] => some (value 0)
    | c :: more =>
      if c == 'e' || c == 'E' then
        let (minus, more) := match more with
          | '-' :: ds => (true, ds)
          | '+' :: ds => (false, ds)
          | ds => (false, ds)
        let (ds, rest) := Decimal.takeDigits more
        if ds.isEmpty || !rest.isEmpty then none
        else some (value (if minus then -(Decimal.value ds : Int) else Decimal.value ds))
      else none

/-- Reads a number with an optional sign, or the name of an infinity or of no number. -/
def ofText? (s : String) : Option Double :=
  let (negative, cs) := match s.toList with
    | '-' :: cs => (true, cs)
    | '+' :: cs => (false, cs)
    | cs => (false, cs)
  let name := (String.ofList cs).toLower
  if name == "inf" || name == "infinity" then some (infinite negative)
  else if name == "nan" then some nan
  else readDecimal negative cs

end Double

end Switchboard
