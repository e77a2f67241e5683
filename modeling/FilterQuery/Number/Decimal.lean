import FilterQuery.Number.Binary
import FilterQuery.Number.Digit
/-!
# Decimal numbers

A decimal number is a sign, a natural number and a power of ten. Its value as a
floating-point number is the nearest one. Reading accepts a sign, digits with a
point anywhere among them or at one of their ends, and an exponent, or one of
the words for infinity and for no number, in any case.
-/

namespace FilterQuery

/-- `digits * 10 ^ exponent`, negated if `negative`. -/
structure Decimal where
  negative : Bool
  digits : Nat
  exponent : Int
deriving DecidableEq, Repr

namespace Decimal

/-- The nearest number of a kind, `nearest` giving it for a quotient of natural
numbers. Exponents beyond those of any finite number of that kind are not
raised to a power. -/
def roundWith (nearest : Bool → Nat → Nat → Float) (d : Decimal) : Float :=
  let size : Int := d.exponent + (Nat.toDigits 10 d.digits).length
  if d.digits = 0 ∨ size < -400 then nearest d.negative 0 1
  else if 400 < size then nearest d.negative (Nat.pow 10 400) 1
  else
    nearest d.negative (d.digits * Nat.pow 10 d.exponent.toNat)
      (Nat.pow 10 (-d.exponent).toNat)

def toFloat : Decimal → Float := roundWith nearestFloat

def toSingle : Decimal → Float := roundWith nearestSingle

end Decimal

/-- A sign at the front of a number, true for a minus sign, and what follows. -/
def readSign : Text → Bool × Text
  | '-' :: rest => (true, rest)
  | '+' :: rest => (false, rest)
  | rest => (false, rest)

/-- The digits at the front of a text, and what follows. -/
def readDigits (text : Text) : Text × Text :=
  (text.takeWhile Char.isDigit, text.dropWhile Char.isDigit)

/-- A signed whole number that takes up the whole text. -/
def readInt? (text : Text) : Option Int :=
  let (negative, rest) := readSign text
  let (digits, tail) := readDigits rest
  if digits.isEmpty || !tail.isEmpty then none
  else
    let n := natOfDigits 10 digits
    some (if negative then -n else n)

/-- The fraction digits after a point at the front of a text, and what follows. -/
def readFraction : Text → Text × Text
  | '.' :: rest => readDigits rest
  | rest => ([], rest)

/-- An exponent at the front of a text that ends with it; zero if the text is
empty. -/
def readExponent? : Text → Option Int
  | [] => some 0
  | c :: rest => if c = 'e' ∨ c = 'E' then readInt? rest else none

def readUnsigned? (negative : Bool) (text : Text) : Option Decimal := do
  let (whole, rest) := readDigits text
  let (fraction, rest) := readFraction rest
  if whole.isEmpty && fraction.isEmpty then none
  let exponent ← readExponent? rest
  some ⟨negative, natOfDigits 10 (whole ++ fraction), exponent - fraction.length⟩

/-- The number that a text in decimal notation, or one of the words `nan`,
`inf` and `infinity`, stands for, rounded by `round`. -/
def readNumber? (round : Decimal → Float) (text : Text) : Option Float :=
  let (negative, rest) := readSign text
  let word := rest.map Char.toLower
  if word = "nan".toList then some (notANumber negative)
  else if word = "inf".toList ∨ word = "infinity".toList then some (infinity negative)
  else (readUnsigned? negative rest).map round

end FilterQuery
