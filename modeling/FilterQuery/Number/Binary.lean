/-!
# Binary numbers and rounding to them

A finite floating-point number is a natural number times a power of two, with a
sign. This module takes a `Float` apart into that form, puts it together again,
and finds the number of a binary format that is nearest to a quotient of
natural numbers, a tie going to the even neighbour. All of it is exact integer
arithmetic on the bits.
-/

namespace FilterQuery

/-- `significand * 2 ^ exponent`. -/
structure Scaled where
  significand : Nat
  exponent : Int
deriving DecidableEq, Repr

/-- A binary format: how many bits a significand has, the exponent of its
smallest numbers, and the power of two that its numbers stay below. -/
structure BinaryFormat where
  precision : Nat
  least : Int
  bound : Int
deriving DecidableEq, Repr

def BinaryFormat.double : BinaryFormat := ⟨53, -1074, 1024⟩

def BinaryFormat.single : BinaryFormat := ⟨24, -149, 128⟩

def powerOfTwo (exponent : Int) : Nat × Nat :=
  (Nat.pow 2 exponent.toNat, Nat.pow 2 (-exponent).toNat)

/-- The quotient, rounded to the nearest natural number, a tie to the even one. -/
def divideToEven (num den : Nat) : Nat :=
  let quotient := num / den
  let twice := 2 * (num % den)
  if twice < den then quotient
  else if den < twice then quotient + 1
  else quotient + quotient % 2

/-- The exponent of the highest power of two that is at most `num / den`, for
two positive numbers. -/
def floorLog2 (num den : Nat) : Int :=
  let estimate : Int := (num.log2 : Int) - den.log2
  let (up, down) := powerOfTwo estimate
  if den * up ≤ num * down then estimate else estimate - 1

namespace BinaryFormat

/-- The number of the format nearest to `num / den`, for a positive `den`;
nothing if that number would not stay below the bound of the format. -/
def round? (format : BinaryFormat) (num den : Nat) : Option Scaled :=
  if num = 0 then some ⟨0, format.least⟩
  else
    let exponent := max format.least (floorLog2 num den + 1 - format.precision)
    let (up, down) := powerOfTwo exponent
    let significand := divideToEven (num * down) (den * up)
    if significand < Nat.pow 2 (format.bound - exponent).toNat then some ⟨significand, exponent⟩
    else none

end BinaryFormat

/-- What a floating-point number is, its sign apart. -/
inductive Magnitude where
  | nan
  | infinite
  | finite (value : Scaled)
deriving DecidableEq, Repr

/-- The sign of a number (true for a minus sign) and its magnitude. -/
def magnitudeOf (x : Float) : Bool × Magnitude :=
  let bits : Nat := x.toBits.toNat
  let fraction : Nat := bits % Nat.pow 2 52
  let field : Nat := bits / Nat.pow 2 52 % Nat.pow 2 11
  let negative := bits / Nat.pow 2 63 == 1
  if field = 2047 then (negative, if fraction = 0 then .infinite else .nan)
  else if field = 0 then (negative, .finite ⟨fraction, -1074⟩)
  else (negative, .finite ⟨Nat.pow 2 52 + fraction, (field : Int) - 1075⟩)

def infinityBits : Nat := 2047 * Nat.pow 2 52

/-- The `Float` with a sign and the bits of its magnitude. -/
def floatOfBits (negative : Bool) (bits : Nat) : Float :=
  Float.ofBits (UInt64.ofNat (if negative then Nat.pow 2 63 + bits else bits))

def infinity (negative : Bool) : Float := floatOfBits negative infinityBits

/-- The `Float` that is no number, with a sign. -/
def notANumber (negative : Bool) : Float := floatOfBits negative (infinityBits + Nat.pow 2 51)

/-- The `Float` nearest to `num / den`, for a positive `den`; an infinity if
that quotient is too large for a finite one. -/
def nearestFloat (negative : Bool) (num den : Nat) : Float :=
  match BinaryFormat.double.round? num den with
  | some value =>
      floatOfBits negative ((value.exponent + 1074).toNat * Nat.pow 2 52 + value.significand)
  | none => infinity negative

/-- The number of single precision nearest to `num / den`, as a `Float`. -/
def nearestSingle (negative : Bool) (num den : Nat) : Float :=
  match BinaryFormat.single.round? num den with
  | some value =>
      let (up, down) := powerOfTwo value.exponent
      nearestFloat negative (value.significand * up) down
  | none => infinity negative

def nearestFloatOfInt (n : Int) : Float := nearestFloat (n < 0) n.natAbs 1

end FilterQuery
