import SchemaMigration.Text.Numeral

/-!
# Floating point by its bits

A number of the 64-bit and 32-bit binary formats is kept as its bits, so that two numbers are equal
when their bits are. What the bits mean is a whole number of units of a power of two.
-/

namespace SchemaMigration

structure Binary64 where
  bits : UInt64
deriving DecidableEq

structure Binary32 where
  bits : UInt32
deriving DecidableEq

/-- What a number is, apart from its sign. -/
inductive Magnitude where
  | nan
  | infinite
  /-- `units` times two to the power `exponent`. -/
  | finite (units : Nat) (exponent : Int)
deriving DecidableEq

namespace Binary64

def isNegative (x : Binary64) : Bool := decide (twoTo 63 ≤ x.bits.toNat)

def exponentField (x : Binary64) : Nat := x.bits.toNat / twoTo 52 % 2048

def fractionField (x : Binary64) : Nat := x.bits.toNat % twoTo 52

/-- What the fields say. Numbers with an exponent field of zero have no leading bit. -/
def magnitude (x : Binary64) : Magnitude :=
  if x.exponentField = 2047 then if x.fractionField = 0 then .infinite else .nan
  else if x.exponentField = 0 then .finite x.fractionField (-1074)
  else .finite (twoTo 52 + x.fractionField) (x.exponentField - 1075)

def ofFields (negative : Bool) (exponent fraction : Nat) : Binary64 :=
  ⟨UInt64.ofNat ((if negative then twoTo 63 else 0) + exponent * twoTo 52 + fraction)⟩

end Binary64

namespace Binary32

def isNegative (x : Binary32) : Bool := decide (twoTo 31 ≤ x.bits.toNat)

def exponentField (x : Binary32) : Nat := x.bits.toNat / twoTo 23 % 256

def fractionField (x : Binary32) : Nat := x.bits.toNat % twoTo 23

/--
The same number in the wider format. A number that is none keeps the bits that it has room for and
becomes a quiet one.
-/
def widen (x : Binary32) : Binary64 :=
  let fraction := x.fractionField
  if x.exponentField = 255 then
    if fraction = 0 then .ofFields x.isNegative 2047 0
    else .ofFields x.isNegative 2047 (twoTo 51 + fraction % twoTo 22 * twoTo 29)
  else if x.exponentField = 0 then
    if fraction = 0 then .ofFields x.isNegative 0 0
    else
      -- A small number has no leading bit of its own. Its highest bit becomes that.
      let top := fraction.log2
      .ofFields x.isNegative (top + 874) ((fraction - twoTo top) * twoTo (52 - top))
  else .ofFields x.isNegative (x.exponentField + 896) (fraction * twoTo 29)

end Binary32

/-!
## The shortest decimal

A floating point number is written with the fewest digits that read back as it, without an
exponent. Of the decimals with so few digits it is the nearest; of two equally near, the greater.
-/

/-- `digits` times ten to the power `exponent`. -/
structure Decimal where
  digits : Nat
  exponent : Int
deriving DecidableEq

/--
The numbers that read back as a given one, in quarters of its unit: from `low` to `high` around
`value`, the ends included when `closed`. The power of two belongs to the quarters.
-/
structure ReadBack where
  low : Nat
  value : Nat
  high : Nat
  closed : Bool
  exponent : Int

namespace ReadBack

/-- Below a power of two the numbers stand twice as close. -/
def ofUnits (units : Nat) (exponent : Int) : ReadBack where
  low := if units = twoTo 52 ∧ exponent ≠ -1074 then 4 * units - 1 else 4 * units - 2
  value := 4 * units
  high := 4 * units + 2
  closed := units % 2 = 0
  exponent := exponent - 2

/-- What a quarter is multiplied with to compare it with `n · grain`, on a power of ten's grid. -/
def factor (r : ReadBack) (power : Int) : Nat := twoTo r.exponent.toNat * tenTo (-power).toNat

/-- What `n` is multiplied with in that comparison. -/
def grain (r : ReadBack) (power : Int) : Nat := twoTo (-r.exponent).toNat * tenTo power.toNat

/-- Whether `n` times a power of ten reads back as the number. -/
def contains (r : ReadBack) (power : Int) (n : Nat) : Bool :=
  let low := r.low * r.factor power
  let point := n * r.grain power
  let high := r.high * r.factor power
  if r.closed then decide (low ≤ point) && decide (point ≤ high)
  else decide (low < point) && decide (point < high)

/-- The multiple of a power of ten that is nearest to the value, among those that read back. -/
def onGrid? (r : ReadBack) (power : Int) : Option Nat :=
  let value := r.value * r.factor power
  let grain := r.grain power
  let below := value / grain
  match r.contains power below, r.contains power (below + 1) with
  | false, false => none
  | true, false => some below
  | false, true => some (below + 1)
  | true, true =>
    if value - below * grain < (below + 1) * grain - value then some below else some (below + 1)

/-- Tries coarser grids before finer ones. -/
def search (r : ReadBack) : Nat → Int → Decimal
  | 0, power => ⟨r.value * r.factor power / r.grain power, power⟩
  | steps + 1, power =>
    match r.onGrid? power with
    | some n => ⟨n, power⟩
    | none => search r steps (power - 1)

end ReadBack

/-- No number of the format is above ten to the power 309, or needs a grid below 10 to the -324. -/
def shortestDecimal (units : Nat) (exponent : Int) : Decimal :=
  (ReadBack.ofUnits units exponent).search 640 309

/-- Positional digits: zeros fill up to the point, and a point has digits after it. -/
def Decimal.text (d : Decimal) : String :=
  let digits := decimalDigits d.digits
  if 0 ≤ d.exponent then String.ofList (digits ++ List.replicate d.exponent.toNat '0')
  else
    let places := (-d.exponent).toNat
    let filled := List.replicate (places + 1 - digits.length) '0' ++ digits
    let whole := filled.take (filled.length - places)
    String.ofList (whole ++ '.' :: filled.drop (filled.length - places))

/-- A number as errors show it. -/
def Binary64.text (x : Binary64) : String :=
  let sign := if x.isNegative then "-" else ""
  match x.magnitude with
  | .nan => "NaN"
  | .infinite => sign ++ "inf"
  | .finite 0 _ => sign ++ "0"
  | .finite units exponent => sign ++ (shortestDecimal units exponent).text

/-!
## The nearest number

A decimal is read as the floating point number nearest to it; of two equally near, as the one with
an even number of units.
-/

/-- The whole number nearest to `num / den`; of two equally near, the even one. -/
def roundHalfEven (num den : Nat) : Nat :=
  let below := num / den
  let twice := 2 * (num % den)
  if twice < den then below
  else if den < twice then below + 1
  else if below % 2 = 0 then below else below + 1

/-- The power of two whose multiples are the numbers near `num / den`. -/
def unitExponent (num den : Nat) : Int :=
  let guess : Int := max (-1074) ((num.log2 : Int) - den.log2 - 53)
  let units := num * twoTo (-guess).toNat / (den * twoTo guess.toNat)
  if units < twoTo 53 then guess else guess + 1

/-- Nothing for a decimal beyond the greatest finite number. -/
def Decimal.toBinary64? (negative : Bool) (d : Decimal) : Option Binary64 :=
  let length : Int := (decimalDigits d.digits).length + d.exponent
  if d.digits = 0 ∨ length < -330 then some (.ofFields negative 0 0)
  else if 311 < length then none
  else
    let num := d.digits * tenTo d.exponent.toNat
    let den := tenTo (-d.exponent).toNat
    let exponent := unitExponent num den
    let units := roundHalfEven (num * twoTo (-exponent).toNat) (den * twoTo exponent.toNat)
    -- A carry out of the fraction raises the exponent field by itself.
    let bits := (exponent + 1074).toNat * twoTo 52 + units
    if bits < 2047 * twoTo 52 then some (.ofFields negative 0 bits) else none

end SchemaMigration
