import FilterQuery.Text
import FilterQuery.Number.Shortest
/-!
# How numbers are written

The digits of a number are its shortest ones; a layout says where the point
stands, when an exponent is written instead of zeros, and how ties among equally
short digits go. There are two layouts: queries never use an exponent and drop
a fraction that is zero, while JSON keeps `.0` and turns to an exponent for very
large and very small numbers.
-/

namespace FilterQuery

/-- The decisions of a way of writing numbers. -/
structure Layout where
  tie : Tie
  /-- The powers of ten of a leading digit for which no exponent is written. -/
  positional : Int → Bool
  /-- Whether a whole number ends with `.0`. -/
  keepsPoint : Bool

/-- Numbers in queries: always positional, and no `.0`. -/
def Layout.query : Layout := ⟨.up, fun _ => true, false⟩

/-- Numbers in JSON: positional from `1e-5` up to below `1e16`, with `.0`. -/
def Layout.json : Layout := ⟨.toEven, fun power => -5 ≤ power && power ≤ 15, true⟩

namespace Layout

/-- The digits of a number without the zeros at their end. -/
def significantDigits (n : Nat) : Text :=
  (((Nat.toDigits 10 n).reverse.dropWhile (· == '0'))).reverse

/-- A number whose leading digit has the given power of ten, without exponent. -/
def writePositional (layout : Layout) (digits : Text) (power : Int) : Text :=
  if power < 0 then '0' :: '.' :: List.replicate (-power - 1).toNat '0' ++ digits
  else
    let whole := power.toNat + 1
    let fraction := digits.drop whole
    digits.take whole ++ List.replicate (whole - digits.length) '0' ++
      if fraction.isEmpty then (if layout.keepsPoint then ".0".toList else [])
      else '.' :: fraction

/-- A number whose leading digit has the given power of ten, with exponent. -/
def writeScientific (digits : Text) (power : Int) : Text :=
  digits.take 1 ++ (if digits.length ≤ 1 then [] else '.' :: digits.drop 1) ++
    'e' :: (if power < 0 then [] else ['+']) ++ Text.ofInt power

/-- A magnitude, written with its shortest digits. -/
def writeScaled (layout : Layout) (value : Scaled) : Text :=
  if value.significand = 0 then '0' :: if layout.keepsPoint then ".0".toList else []
  else
    let shortest := value.shortest layout.tie
    let digits := significantDigits shortest.digits
    let power := shortest.exponent + decimalLength shortest.digits - 1
    if layout.positional power then layout.writePositional digits power
    else writeScientific digits power

/-- A finite number with its sign; nothing for an infinity or no number. -/
def write? (layout : Layout) (x : Float) : Option Text :=
  match magnitudeOf x with
  | (negative, .finite value) =>
      some ((if negative then ['-'] else []) ++ layout.writeScaled value)
  | _ => none

end Layout

end FilterQuery
