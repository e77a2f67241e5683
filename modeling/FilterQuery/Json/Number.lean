import FilterQuery.Datum
import FilterQuery.Number.Decimal
/-!
# Numbers in JSON

A whole number that fits 64 bits is read as it is, except `-0`, which is a
floating-point number. Of any other number as many leading digits are taken as
fit a significand of 64 bits; whole digits beyond that raise the power of ten
and fraction digits beyond that are dropped. The value is the significand, as a
floating-point number, multiplied or divided by the power of ten. A number that
this takes beyond the finite ones has no value.
-/

namespace FilterQuery.Json

def significandBound : Nat := Nat.pow 2 64

/-- A significand with one more digit, if it stays within its bound. -/
@[irreducible] def appendDigit? (significand : Nat) (digit : Char) : Option Nat :=
  let longer := significand * 10 + (digit.toNat - '0'.toNat)
  if longer < significandBound then some longer else none

/-- The significand that whole digits lead to, and the number of digits left
over from the first that does not fit. -/
def takeWhole (significand : Nat) : Text → Nat × Nat
  | [] => (significand, 0)
  | digit :: rest =>
      match appendDigit? significand digit with
      | some longer => takeWhole longer rest
      | none => (significand, rest.length + 1)

/-- The significand that fraction digits lead to, and how many of them were
taken before the first that does not fit. -/
def takeFraction (significand : Nat) : Text → Nat × Nat
  | [] => (significand, 0)
  | digit :: rest =>
      match appendDigit? significand digit with
      | some longer =>
          let (result, taken) := takeFraction longer rest
          (result, taken + 1)
      | none => (significand, 0)

def powerOfTen (power : Nat) : Float := nearestFloat false (Nat.pow 10 power) 1

/-- `significand * 10 ^ power` by floating-point operations; nothing if the
result is not finite. -/
def scale? (significand : Nat) (power : Int) : Option Float :=
  let x := nearestFloat false significand 1
  if significand = 0 ∨ power < -616 then some (nearestFloat false 0 1)
  else if 308 < power then none
  else if 0 ≤ power then
    let product := x * powerOfTen power.toNat
    if product.isInf then none else some product
  else if -308 ≤ power then some (x / powerOfTen (-power).toNat)
  else some (x / powerOfTen 308 / powerOfTen (-power - 308).toNat)

/-- A number that is not a whole number of 64 bits. -/
def floatDatum (negative : Bool) (significand : Nat) (power : Int) : Datum :=
  match scale? significand power with
  | some x => .float (if negative then -x else x)
  | none => .unreadable

/-- A number given by its sign and the digits of its parts. -/
def numberDatum (negative : Bool) (whole fraction : Text) (exponent : Option Int) : Datum :=
  let (significand, left) := takeWhole 0 whole
  let n : Int := if negative then -significand else significand
  if fraction.isEmpty ∧ exponent = none ∧ left = 0 ∧ Int64.minValue.toInt ≤ n ∧
      ¬(negative ∧ significand = 0) then .integer n
  else
    let (significand, taken) := takeFraction significand fraction
    floatDatum negative significand (left - taken + exponent.getD 0)

/-- The fraction digits at the front of a text, at least one after a point, and
what follows. -/
def readFraction? : Text → Option (Text × Text)
  | '.' :: rest =>
      let (digits, after) := readDigits rest
      if digits.isEmpty then none else some (digits, after)
  | rest => some ([], rest)

/-- The exponent at the front of a text, if there is one, and what follows. -/
def readPower? : Text → Option (Option Int × Text)
  | [] => some (none, [])
  | c :: rest =>
      if c = 'e' ∨ c = 'E' then
        let (negative, rest) := readSign rest
        let (digits, after) := readDigits rest
        if digits.isEmpty then none
        else
          let power : Int := natOfDigits 10 digits
          some (some (if negative then -power else power), after)
      else some (none, c :: rest)

/-- The whole digits at the front of a text, without a leading zero unless it
is the only one, and what follows. -/
def readWhole? (text : Text) : Option (Text × Text) :=
  match readDigits text with
  | ([], _) => none
  | ('0' :: digit :: digits, after) => some (['0'], digit :: digits ++ after)
  | (digits, after) => some (digits, after)

/-- The number at the front of a text, and what follows. -/
def readNumber? (text : Text) : Option (Datum × Text) := do
  let (negative, rest) := match text with
    | '-' :: rest => (true, rest)
    | rest => (false, rest)
  let (whole, rest) ← readWhole? rest
  let (fraction, rest) ← readFraction? rest
  let (exponent, rest) ← readPower? rest
  some (numberDatum negative whole fraction exponent, rest)

end FilterQuery.Json
