/-!
# Decimal text of floating-point numbers

Every finite double is a significand times a power of two. Its shortest decimal is the
coarsest multiple of a power of ten that reads back as the same double; its rounded decimal
is the multiple of a tenth nearest to its exact value. Both are written positionally, never
with an exponent.

## Main definitions

* `Binary`: significand and exponent of a finite magnitude, with the interval of reals that
  round to it
* `Decimal.ofBinary`: the shortest decimal of a magnitude
* `Float.shortest`, `Float.oneDecimal`: the two texts of a number
-/

namespace Workplan

/-- The magnitude `significand * 2 ^ exponent` of a finite double. -/
structure Binary where
  significand : Nat
  exponent : Int
  deriving DecidableEq

/-- The magnitude `digits * 10 ^ exponent`. -/
structure Decimal where
  digits : Nat
  exponent : Int
  deriving DecidableEq

/-- A power of two. -/
private def twoTo (k : Nat) : Nat := 1 <<< k

/-- A power of ten. -/
private def tenTo (k : Nat) : Nat := Nat.pow 10 k

namespace Binary

/-- The magnitude of a double that is neither infinite nor a NaN, from its bits. -/
def ofBits (bits : UInt64) : Binary :=
  let fraction : Nat := bits.toNat % twoTo 52
  let scale : Nat := bits.toNat / twoTo 52 % twoTo 11
  if scale = 0 then ⟨fraction, -1074⟩ else ⟨twoTo 52 + fraction, (scale : Int) - 1075⟩

/-- The magnitude as a fraction `(numerator, denominator)`. -/
def fraction (b : Binary) : Nat × Nat :=
  (b.significand * twoTo b.exponent.toNat, twoTo (-b.exponent).toNat)

/-- The ends of the interval of reals that round to the magnitude, in quarters of a unit of
its last place. Below a power of two the doubles lie twice as dense. -/
def roundingInterval (b : Binary) : Nat × Nat :=
  let quarters := 4 * b.significand
  let denser := b.significand = twoTo 52 ∧ -1074 < b.exponent
  (if denser then quarters - 1 else quarters - 2, quarters + 2)

/-- Does `n * 10 ^ e` round to the magnitude? The ends of the interval do so exactly if the
significand is even. -/
def isRoundedFrom (b : Binary) (n : Nat) (e : Int) : Bool :=
  let (low, high) := b.roundingInterval
  let value := 4 * n * tenTo e.toNat * twoTo (-b.exponent).toNat
  let unit := twoTo b.exponent.toNat * tenTo (-e).toNat
  if b.significand % 2 = 0 then low * unit ≤ value && value ≤ high * unit
  else low * unit < value && value < high * unit

end Binary

namespace Decimal

/-- Of the two multiples of `10 ^ e` around a magnitude, the one that rounds to it; if both
do, the nearer one, and the upper one when they are equally near. -/
def onGrid? (b : Binary) (e : Int) : Option Decimal :=
  let (numerator, denominator) := b.fraction
  let scaled := numerator * tenTo (-e).toNat
  let step := denominator * tenTo e.toNat
  let below := scaled / step
  let lower := b.isRoundedFrom below e && below != 0
  let upper := b.isRoundedFrom (below + 1) e
  -- the remainder is at least half a step where the upper multiple is no farther away
  if lower && !(upper && step ≤ 2 * (scaled % step)) then some ⟨below, e⟩
  else if upper then some ⟨below + 1, e⟩
  else none

/-- The shortest decimal of a magnitude: the first hit on the grids of multiples of powers
of ten, coarsest first. The first grid is coarser than the magnitude, and on the last one
the magnitude itself is a point. -/
def ofBinary (b : Binary) : Decimal :=
  if b.significand = 0 then ⟨0, 0⟩
  else
    let (numerator, denominator) := b.fraction
    -- as many zeros as the whole part has digits make a power of ten above the magnitude
    let coarsest := (toString (numerator / denominator)).length
    let grids := coarsest + (-b.exponent).toNat + 1
    ((List.range grids).findSome? fun (j : Nat) => onGrid? b (coarsest - j)).getD ⟨0, 0⟩

/-- The multiple of a tenth nearest to a magnitude; a half goes to the even neighbour. -/
def tenths (b : Binary) : Decimal :=
  let (numerator, denominator) := b.fraction
  let below := 10 * numerator / denominator
  let rest := 2 * (10 * numerator % denominator)
  let up := denominator < rest ∨ rest = denominator ∧ below % 2 = 1
  ⟨if up then below + 1 else below, -1⟩

/-- Positional text: zeros fill the places up to the point, which is written only in front
of decimal places. -/
def render (d : Decimal) : String :=
  let digits := (toString d.digits).toList
  let places := (-d.exponent).toNat
  let padded := List.replicate (places + 1 - digits.length) '0' ++ digits
  let whole := padded.take (padded.length - places)
  if places = 0 then String.ofList (digits ++ List.replicate d.exponent.toNat '0')
  else String.ofList (whole ++ '.' :: padded.drop whole.length)

end Decimal

/-- Writes a number: its sign, then the text of its magnitude. A NaN has no sign. -/
private def writeNumber (magnitude : Binary → Decimal) (x : Float) : String :=
  if x.isNaN then "NaN"
  else
    let sign := if x.toBits.toNat < twoTo 63 then "" else "-"
    if x.isInf then sign ++ "inf" else sign ++ (magnitude (Binary.ofBits x.toBits)).render

/-- The shortest decimal text that reads back as the number. -/
def shortestText (x : Float) : String := writeNumber Decimal.ofBinary x

/-- The text of a number rounded to one decimal place. -/
def tenthsText (x : Float) : String := writeNumber Decimal.tenths x

end Workplan
