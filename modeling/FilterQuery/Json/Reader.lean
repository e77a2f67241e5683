import FilterQuery.Json.Number
/-!
# Reading JSON

JSON text is read by recursive descent, each reader giving back what follows.
A string may be written with an escape for half a surrogate pair; such a string
is well formed but has no value, and no more has a record with a field of such
a name. Lists and records may be nested to any depth; `depthLimit` is the bound
for those that are looked at.
-/

namespace FilterQuery.Json

/-- How deep lists and records may be nested where their values matter. -/
def depthLimit : Nat := 127

/-- Whether a character may stand between the parts of a JSON text. -/
def isSpace (c : Char) : Bool := c == ' ' || c == '\t' || c == '\n' || c == '\r'

def skipSpace (text : Text) : Text := text.dropWhile isSpace

/-! ## Strings -/

/-- Where the reader of a string stands: among plain characters, after a
backslash, or in an escape with `digits` more digits to come after those that
make up `value`. -/
inductive StringState where
  | plain
  | escaped
  | hex (digits value : Nat)
deriving DecidableEq, Repr

/-- The character that a backslash and a letter stand for. -/
def simpleEscape? (c : Char) : Option Char :=
  if c = '"' ∨ c = '\\' ∨ c = '/' then some c
  else if c = 'b' then some '\x08'
  else if c = 'f' then some '\x0c'
  else if c = 'n' then some '\n'
  else if c = 'r' then some '\r'
  else if c = 't' then some '\t'
  else none

/-- The code points and surrogates of a string up to its closing quote, and
what follows. -/
def readUnits? : StringState → Text → Option (List Nat × Text)
  | _, [] => none
  | .plain, c :: rest =>
      if c = '"' then some ([], rest)
      else if c = '\\' then readUnits? .escaped rest
      else if c.toNat < 0x20 then none
      else (readUnits? .plain rest).map fun (units, after) => (c.toNat :: units, after)
  | .escaped, c :: rest =>
      if c = 'u' then readUnits? (.hex 3 0) rest
      else
        match simpleEscape? c with
        | some plain =>
            (readUnits? .plain rest).map fun (units, after) => (plain.toNat :: units, after)
        | none => none
  | .hex digits value, c :: rest =>
      match digitValue? c with
      | none => none
      | some digit =>
          let value := value * 16 + digit
          match digits with
          | 0 => (readUnits? .plain rest).map fun (units, after) => (value :: units, after)
          | digits + 1 => readUnits? (.hex digits value) rest

/-- Whether a number is the first half of a surrogate pair. -/
def isHighSurrogate (n : Nat) : Bool := 0xD800 ≤ n && n ≤ 0xDBFF

/-- Whether a number is the second half of a surrogate pair. -/
def isLowSurrogate (n : Nat) : Bool := 0xDC00 ≤ n && n ≤ 0xDFFF

/-- The text of code points and surrogate pairs; nothing if half a pair stands
alone. -/
def textOfUnits? : List Nat → Option Text
  | [] => some []
  | [unit] =>
      if isHighSurrogate unit || isLowSurrogate unit then none else some [Char.ofNat unit]
  | unit :: next :: rest =>
      if isHighSurrogate unit then
        if isLowSurrogate next then
          (textOfUnits? rest).map
            (Char.ofNat (0x10000 + (unit - 0xD800) * 0x400 + (next - 0xDC00)) :: ·)
        else none
      else if isLowSurrogate unit then none
      else (textOfUnits? (next :: rest)).map (Char.ofNat unit :: ·)

/-- The string whose opening quote has been read, if it has a value, and what
follows. -/
def readString? (text : Text) : Option (Option Text × Text) :=
  (readUnits? .plain text).map fun (units, after) => (textOfUnits? units, after)

def stringDatum : Option Text → Datum
  | some value => .text value
  | none => .unreadable

/-- A field and those that follow it, if all names have a value. -/
def addField (name : Option Text) (value : Datum) (fields : Option (List (Text × Datum))) :
    Option (List (Text × Datum)) := do
  some ((← name, value) :: (← fields))

def recordDatum : Option (List (Text × Datum)) → Datum
  | some fields => .record fields
  | none => .unreadable

/-! ## Values -/

mutual

/-- The value at the front of a text, and what follows. The first argument
bounds the recursion. -/
def readValue? : Nat → Text → Option (Datum × Text)
  | 0, _ => none
  | fuel + 1, text =>
      match skipSpace text with
      | [] => none
      | '"' :: rest => (readString? rest).map fun (value, after) => (stringDatum value, after)
      | '[' :: rest =>
          match skipSpace rest with
          | ']' :: after => some (.list [], after)
          | rest => (readItems? fuel rest).map fun (items, after) => (.list items, after)
      | '{' :: rest =>
          match skipSpace rest with
          | '}' :: after => some (.record [], after)
          | rest => (readFields? fuel rest).map fun (fields, after) => (recordDatum fields, after)
      | 't' :: rest => (Text.stripStart? "rue".toList rest).map (.boolean true, ·)
      | 'f' :: rest => (Text.stripStart? "alse".toList rest).map (.boolean false, ·)
      | 'n' :: rest => (Text.stripStart? "ull".toList rest).map (.null, ·)
      | rest => readNumber? rest

/-- The items of a list up to its closing bracket, and what follows. -/
def readItems? : Nat → Text → Option (List Datum × Text)
  | 0, _ => none
  | fuel + 1, text => do
      let (item, rest) ← readValue? fuel text
      match skipSpace rest with
      | ',' :: rest =>
          let (items, after) ← readItems? fuel rest
          some (item :: items, after)
      | ']' :: after => some ([item], after)
      | _ => none

/-- The fields of a record up to its closing brace, if all names have a value,
and what follows. -/
def readFields? : Nat → Text → Option (Option (List (Text × Datum)) × Text)
  | 0, _ => none
  | fuel + 1, text => do
      let '"' :: rest := skipSpace text | none
      let (name, rest) ← readString? rest
      let ':' :: rest := skipSpace rest | none
      let (value, rest) ← readValue? fuel rest
      match skipSpace rest with
      | ',' :: rest =>
          let (fields, after) ← readFields? fuel rest
          some (addField name value fields, after)
      | '}' :: after => some (addField name value (some []), after)
      | _ => none

end

def read? (text : Text) : Option Datum := do
  let (value, rest) ← readValue? (text.length + 1) text
  if (skipSpace rest).isEmpty then some value else none

end FilterQuery.Json
