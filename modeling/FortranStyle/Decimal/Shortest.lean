/-!
# The shortest decimal of a floating point number

A floating point number is shown by the fewest decimal digits that read back as
the same number, and among those by the digits nearest to it.  All arithmetic is
on naturals.
-/

namespace FortranStyle

/-- The decimal `digits * 10 ^ exponent`. -/
structure Decimal where
  digits : Nat
  exponent : Int
deriving DecidableEq, Repr

namespace Decimal

/-- Remove zeros from the end of the digits; at most `fuel` of them. -/
def dropZeros : (fuel : Nat) → Decimal → Decimal
  | 0, d => d
  | fuel + 1, d =>
      if d.digits ≠ 0 ∧ d.digits % 10 = 0 then dropZeros fuel ⟨d.digits / 10, d.exponent + 1⟩
      else d

/-- The number of decimal digits of a natural number. -/
def digitCount (n : Nat) : Nat :=
  (Nat.toDigits 10 n).length

/-- A positive finite floating point number as the fraction
`numerator / denominator`, with the ends of the interval of numbers that round
to it in the same units. -/
structure Interval where
  low : Nat
  value : Nat
  high : Nat
  denominator : Nat
  /-- The ends round to the number themselves. -/
  closed : Bool
deriving DecidableEq, Repr

namespace Interval

/-- The interval of the number `mantissa * 2 ^ exponent`.  Below a power of two
the next number is half as far away, unless the number is subnormal. -/
def ofParts (mantissa : Nat) (exponent : Int) (nearBelow : Bool) : Interval :=
  let scale := Nat.pow 2 (exponent - 2).toNat
  { low := (4 * mantissa - if nearBelow then 1 else 2) * scale
    value := 4 * mantissa * scale
    high := (4 * mantissa + 2) * scale
    denominator := Nat.pow 2 (2 - exponent).toNat
    closed := mantissa % 2 = 0 }

/-- Compare a number of the interval's units with `digits * 10 ^ exponent`, as
two naturals. -/
def compared (interval : Interval) (part : Nat) (d : Decimal) : Nat × Nat :=
  (part * Nat.pow 10 (-d.exponent).toNat,
    d.digits * Nat.pow 10 d.exponent.toNat * interval.denominator)

/-- Whether a decimal reads back as the number. -/
def holds (interval : Interval) (d : Decimal) : Bool :=
  let (low, middle) := interval.compared interval.low d
  let (high, _) := interval.compared interval.high d
  if interval.closed then low ≤ middle && middle ≤ high else low < middle && middle < high

/-- The distance of a decimal from the number, in units that depend on the
exponent of the decimal alone. -/
def distance (interval : Interval) (d : Decimal) : Nat :=
  let (value, middle) := interval.compared interval.value d
  (value - middle) + (middle - value)

/-- The exponent of the first digit of the number. -/
def leadingExponent (interval : Interval) : Int :=
  (digitCount (interval.value * Nat.pow 10 400 / interval.denominator) : Int) - 401

/-- The decimal of the given exponent that is nearest to the number among those
that read back; of two that are equally near, the even one. -/
def nearest? (interval : Interval) (exponent : Int) : Option Decimal :=
  let (value, unit) := interval.compared interval.value ⟨1, exponent⟩
  let below : Decimal := ⟨value / unit, exponent⟩
  let above : Decimal := ⟨value / unit + 1, exponent⟩
  match interval.holds below, interval.holds above with
  | true, true =>
      let first := interval.distance below
      let second := interval.distance above
      if first < second || (first == second && below.digits % 2 == 0) then some below
      else some above
  | true, false => some below
  | false, true => some above
  | false, false => none

/-- The shortest decimal that reads back.  Seventeen digits always suffice. -/
def shortest (interval : Interval) : Decimal :=
  let leading := interval.leadingExponent
  let found := (List.range 17).findSome? fun (more : Nat) => interval.nearest? (leading - more)
  dropZeros 400 (found.getD ⟨0, 0⟩)

end Interval

/-- The sign of a floating point number and the shortest decimal of its
magnitude; nothing for infinities and for what is no number. -/
def ofFloat? (x : Float) : Option (Bool × Decimal) :=
  let bits : Nat := x.toBits.toNat
  let isNegative := bits / Nat.pow 2 63 == 1
  let biased : Nat := bits / Nat.pow 2 52 % Nat.pow 2 11
  let fraction : Nat := bits % Nat.pow 2 52
  if biased = 2047 then none
  else if biased = 0 then
    if fraction = 0 then some (isNegative, ⟨0, 0⟩)
    else some (isNegative, (Interval.ofParts fraction (-1074) false).shortest)
  else
    let interval :=
      Interval.ofParts (Nat.pow 2 52 + fraction) ((biased : Int) - 1075)
        (fraction = 0 ∧ biased > 1)
    some (isNegative, interval.shortest)

/-- The text of a decimal: positional while the first digit stands between the
fourth place behind the point and the sixteenth before it, and with an exponent of
two digits or more otherwise. -/
def render (d : Decimal) : String :=
  let digits := Nat.toDigits 10 d.digits
  let leading : Int := d.exponent + digits.length - 1
  let zeros (count : Int) := List.replicate count.toNat '0'
  let text :=
    if d.digits = 0 then ['0', '.', '0']
    else if -4 ≤ leading ∧ leading < 16 then
      if leading < 0 then
        '0' :: '.' :: zeros (-leading - 1) ++ digits
      else
        let whole := (leading + 1).toNat
        let tail := digits.drop whole
        digits.take whole ++ zeros (leading + 1 - digits.length) ++ '.' ::
          (if tail.isEmpty then ['0'] else tail)
    else
      let power := Nat.toDigits 10 leading.natAbs
      let tail := digits.drop 1
      digits.take 1 ++ (if tail.isEmpty then [] else '.' :: tail) ++
        ['e', if leading < 0 then '-' else '+'] ++
        (if power.length < 2 then '0' :: power else power)
  String.ofList text

/-- The text of a floating point number. -/
def renderFloat (x : Float) : String :=
  match ofFloat? x with
  | some (isNegative, d) => (if isNegative then "-" else "") ++ d.render
  | none => if x.isNaN then "nan" else if x < 0 then "-inf" else "inf"

/-- The floating point number nearest to `digits * 10 ^ exponent`.  Beyond the
range of all floating point numbers the exponent no longer matters. -/
def toFloat (d : Decimal) : Float :=
  let leading := d.exponent + digitCount d.digits
  if d.digits = 0 ∨ leading < -400 then 0
  else if leading > 400 then Float.ofScientific 1 false 400
  else Float.ofScientific d.digits (d.exponent < 0) d.exponent.natAbs

end Decimal

end FortranStyle
