import FilterQuery.Number.Digit
/-!
# Dates and times in TOML

A moment is a date, a time, or a date and a time with the offset from universal
time or without it. A date is a day of the calendar, with leap years; the second
of a time may be left out, and may be a leap second.
-/

namespace FilterQuery.Toml

/-- The number written with exactly `count` digits at the front of a text, and
what follows. -/
def readFixed? (count : Nat) (text : Text) : Option (Nat × Text) :=
  let digits := text.take count
  if digits.length = count ∧ digits.all Char.isDigit then
    some (natOfDigits 10 digits, text.drop count)
  else none

def isLeapYear (year : Nat) : Bool := year % 4 == 0 && (year % 100 != 0 || year % 400 == 0)

def daysOfMonth (year month : Nat) : Nat :=
  if month = 2 then if isLeapYear year then 29 else 28
  else if month = 4 ∨ month = 6 ∨ month = 9 ∨ month = 11 then 30
  else 31

def afterDate? (text : Text) : Option Text := do
  let (year, rest) ← readFixed? 4 text
  let rest ← Text.stripStart? ['-'] rest
  let (month, rest) ← readFixed? 2 rest
  let rest ← Text.stripStart? ['-'] rest
  let (day, rest) ← readFixed? 2 rest
  if 1 ≤ month ∧ month ≤ 12 ∧ 1 ≤ day ∧ day ≤ daysOfMonth year month then some rest else none

def afterFraction? : Text → Option Text
  | '.' :: rest => if rest.head?.any Char.isDigit then some (rest.dropWhile Char.isDigit) else none
  | rest => some rest

def afterMinute? (text : Text) : Option Text := do
  let (hour, rest) ← readFixed? 2 text
  let rest ← Text.stripStart? [':'] rest
  let (minute, rest) ← readFixed? 2 rest
  if hour < 24 ∧ minute < 60 then some rest else none

/-- What follows the second of a time, which may be left out. -/
def afterSecond? : Text → Option Text
  | ':' :: rest => do
      let (second, rest) ← readFixed? 2 rest
      if second ≤ 60 then afterFraction? rest else none
  | rest => some rest

def afterTime? (text : Text) : Option Text := afterMinute? text >>= afterSecond?

/-- Whether a text is an offset from universal time, or empty. -/
def isOffset : Text → Bool
  | [] | ['Z'] | ['z'] => true
  | c :: rest => (c == '+' || c == '-') && afterMinute? rest == some []

/-- Whether a character may stand between a date and a time. -/
def isTimeMark (c : Char) : Bool := c == 'T' || c == 't' || c == ' '

def isMoment (text : Text) : Bool :=
  match afterDate? text with
  | some [] => true
  | some (c :: rest) => isTimeMark c && (afterTime? rest).any isOffset
  | none => afterTime? text == some []

end FilterQuery.Toml
