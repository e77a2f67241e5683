import FilterQuery.Number.Binary
/-!
# Shortest decimal digits

Among the decimal numbers that read back as a given floating-point number, the
shortest is the one with the fewest digits, and the nearest of those. Only the
two neighbours of the number on each decimal grid have to be looked at: if any
point of a grid reads back, one of them does. When both do and are equally
near, a rule for ties decides.
-/

namespace FilterQuery

/-- `digits * 10 ^ exponent`, a decimal number without a sign. -/
structure Digits where
  digits : Nat
  exponent : Int
deriving DecidableEq, Repr

/-- Which of two equally near decimal numbers is taken. -/
inductive Tie where
  | up
  | toEven
deriving DecidableEq, Repr

def decimalLength (n : Nat) : Nat := (Nat.toDigits 10 n).length

/-- The exponent of the highest power of ten that is at most `num / den`, for
two positive numbers. -/
def floorLog10 (num den : Nat) : Int :=
  if den ≤ num then (decimalLength (num / den) : Int) - 1
  else -(decimalLength ((den - 1) / num) : Int)

/-- The real numbers that read back as a given number, as quotients over one
denominator: the number itself, the ends of the interval around it, and whether
the ends belong to it. -/
structure Interval where
  value : Nat
  low : Nat
  high : Nat
  den : Nat
  closed : Bool
deriving DecidableEq, Repr

/-- The interval of a positive `Float`. Below a power of two the neighbours lie
half as far apart, and an even significand takes the ends. -/
def Scaled.interval (s : Scaled) : Interval :=
  let (up, down) := powerOfTwo (s.exponent - 2)
  let below := if s.significand = Nat.pow 2 52 ∧ s.exponent ≠ -1074 then 1 else 2
  ⟨4 * s.significand * up, (4 * s.significand - below) * up, (4 * s.significand + 2) * up,
    down, s.significand % 2 == 0⟩

namespace Interval

/-- Whether `digits * 10 ^ exponent` lies in the interval. -/
def contains (i : Interval) (d : Digits) : Bool :=
  let point := d.digits * Nat.pow 10 d.exponent.toNat * i.den
  let scale := Nat.pow 10 (-d.exponent).toNat
  if i.closed then i.low * scale ≤ point && point ≤ i.high * scale
  else i.low * scale < point && point < i.high * scale

/-- The digits of the number below the value on the grid `10 ^ exponent`. -/
def floorOn (i : Interval) (exponent : Int) : Nat :=
  i.value * Nat.pow 10 (-exponent).toNat / (i.den * Nat.pow 10 exponent.toNat)

/-- Whether the upper of the two neighbours on a grid is taken, both being in
the interval. -/
def prefersUpper (i : Interval) (tie : Tie) (lower : Nat) (exponent : Int) : Bool :=
  let twice := 2 * i.value * Nat.pow 10 (-exponent).toNat
  let middle := (2 * lower + 1) * Nat.pow 10 exponent.toNat * i.den
  if twice < middle then false
  else if middle < twice then true
  else tie == .up || lower % 2 == 1

/-- The neighbour on the grid `10 ^ exponent` that reads back, if one does. -/
def onGrid? (i : Interval) (tie : Tie) (exponent : Int) : Option Digits :=
  let lower := i.floorOn exponent
  match i.contains ⟨lower, exponent⟩, i.contains ⟨lower + 1, exponent⟩ with
  | true, true => some ⟨if i.prefersUpper tie lower exponent then lower + 1 else lower, exponent⟩
  | true, false => some ⟨lower, exponent⟩
  | false, true => some ⟨lower + 1, exponent⟩
  | false, false => none

/-- The first grid with a hit, from `exponent` downwards. -/
def search (i : Interval) (tie : Tie) : (grids : Nat) → (exponent : Int) → Digits
  | 0, exponent => ⟨i.floorOn exponent, exponent⟩
  | grids + 1, exponent =>
      (i.onGrid? tie exponent).getD (i.search tie grids (exponent - 1))

end Interval

/-- The shortest digits of a positive `Float`. Seventeen always suffice. -/
def Scaled.shortest (tie : Tie) (s : Scaled) : Digits :=
  let i := s.interval
  i.search tie 17 (floorLog10 i.value i.den)

end FilterQuery
