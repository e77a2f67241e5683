import FilterQuery.Datum
import FilterQuery.Number.Decimal
import FilterQuery.Toml.Moment
/-!
# Values without quotes in TOML

Booleans, numbers, dates and times stand bare. Digits may be separated by
single underscores. Whole numbers are also written in bases two, eight and
sixteen, without a sign; a decimal number has no leading zero and digits on
both sides of its point. A number beyond every floating-point number is refused,
and so is a whole number that takes more than 128 bits; a whole number that
takes more than 64 bits is well formed but has no value.
-/

namespace FilterQuery.Toml

/-- The digits of a number without the underscores between them; nothing if
there are no digits, or if an underscore does not stand between two of them. -/
def plainDigits? (base : Nat) : Text → Option Text
  | [] => none
  | [c] => if isDigitOf base c then some [c] else none
  | c :: d :: rest =>
      if isDigitOf base c then
        if d = '_' then (plainDigits? base rest).map (c :: ·)
        else (plainDigits? base (d :: rest)).map (c :: ·)
      else none

/-- Whether a character can stand among the digits of a decimal number. -/
def isDigitPart (c : Char) : Bool := c.isDigit || c == '_'

/-- The digits of a whole number, which has no leading zero. -/
def wholeDigits? (text : Text) : Option Text :=
  if text.head? = some '0' ∧ text ≠ ['0'] then none else plainDigits? 10 text

def readBased? : Text → Option Nat
  | '0' :: 'x' :: rest => (plainDigits? 16 rest).map (natOfDigits 16)
  | '0' :: 'o' :: rest => (plainDigits? 8 rest).map (natOfDigits 8)
  | '0' :: 'b' :: rest => (plainDigits? 2 rest).map (natOfDigits 2)
  | _ => none

/-- The exponent that a text is; zero if it is empty. -/
def readExponent? : Text → Option Int
  | [] => some 0
  | c :: rest =>
      if c = 'e' ∨ c = 'E' then do
        let (negative, rest) := readSign rest
        let n : Int := natOfDigits 10 (← plainDigits? 10 rest)
        some (if negative then -n else n)
      else none

/-- The fraction digits at the front of a text, and what follows. -/
def readFraction? : Text → Option (Text × Text)
  | '.' :: rest => do
      some (← plainDigits? 10 (rest.takeWhile isDigitPart), rest.dropWhile isDigitPart)
  | rest => some ([], rest)

/-- Whether a whole number takes at most the given number of bits, with a sign
or without one. -/
def fitsIn (bits : Nat) (n : Int) : Bool :=
  -(Nat.pow 2 (bits - 1) : Int) ≤ n && n < (Nat.pow 2 bits : Int)

def whole? (n : Int) : Option Datum :=
  if fitsIn 64 n then some (.integer n)
  else if fitsIn 128 n then some .unreadable
  else none

/-- A float, unless it is infinite. -/
def finite? (d : Decimal) : Option Datum :=
  let x := d.toFloat
  if x.isInf then none else some (.float x)

/-- The number in decimal notation, without its sign, that a text is. -/
def readDecimal? (negative : Bool) (text : Text) : Option Datum := do
  let whole ← wholeDigits? (text.takeWhile isDigitPart)
  match text.dropWhile isDigitPart with
  | [] =>
      let n : Int := natOfDigits 10 whole
      whole? (if negative then -n else n)
  | rest =>
      let (fraction, rest) ← readFraction? rest
      let exponent ← readExponent? rest
      finite? ⟨negative, natOfDigits 10 (whole ++ fraction), exponent - fraction.length⟩

def readNumber? (text : Text) : Option Datum :=
  let (negative, rest) := readSign text
  if rest = "inf".toList then some (.float (infinity negative))
  else if rest = "nan".toList then some (.float (notANumber negative))
  else
    match readBased? text with
    | some n => whole? n
    | none => readDecimal? negative rest

def readBare? (text : Text) : Option Datum :=
  if text = "true".toList then some (.boolean true)
  else if text = "false".toList then some (.boolean false)
  else if isMoment text then some (.moment text)
  else readNumber? text

end FilterQuery.Toml
