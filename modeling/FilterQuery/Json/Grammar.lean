import FilterQuery.Json.Reader
/-!
# Texts that are JSON

A text is JSON for a datum if it is one of the ways to write the datum: white
space may stand between the parts, and in strings the double quote, the
backslash and the characters below U+0020 are escaped, and no others. Numbers
are the integers of 64 bits here; nothing is said of any other number, nor of
data that JSON has no way to write.
-/

namespace FilterQuery.Json

/-! ## Strings -/

/-- Whether a character cannot stand in a string as it is. -/
def IsEscaped (c : Char) : Prop := c = '"' ∨ c = '\\' ∨ c.toNat < 0x20

/-- The ways to write a character in a string: as it is, or with a backslash and
a letter or hexadecimal digits if it has to be escaped. -/
inductive DenotesChar : Text → Char → Prop
  | plain {c : Char} : ¬ IsEscaped c → DenotesChar [c] c
  | letter {letter c : Char} : IsEscaped c → simpleEscape? letter = some c →
      DenotesChar ['\\', letter] c
  | digits {high low c : Char} {n m : Nat} : IsEscaped c → digitValue? high = some n →
      digitValue? low = some m → n * 16 + m = c.toNat →
        DenotesChar ['\\', 'u', '0', '0', high, low] c

/-- The ways to write a string, without the quotes around it. -/
inductive DenotesString : Text → Text → Prop
  | nil : DenotesString [] []
  | cons {written rest value : Text} {c : Char} : DenotesChar written c →
      DenotesString rest value → DenotesString (written ++ rest) (c :: value)

/-! ## Parts of lists and records -/

/-- White space only. -/
def IsGap (gap : Text) : Prop := ∀ c ∈ gap, isSpace c = true

/-- A datum as it is written, with what stands before and after it. -/
structure Item where
  before : Text
  written : Text
  datum : Datum
  after : Text

def Item.text (i : Item) : Text := i.before ++ (i.written ++ i.after)

structure Item.IsSpaced (i : Item) : Prop where
  before : IsGap i.before
  after : IsGap i.after

/-- A name as it is written, with what stands before and after it, and its
value. -/
structure Field where
  before : Text
  written : Text
  name : Text
  after : Text
  value : Item

def Field.text (f : Field) : Text :=
  f.before ++ '"' :: (f.written ++ '"' :: (f.after ++ ':' :: f.value.text))

def Field.entry (f : Field) : Text × Datum := (f.name, f.value.datum)

structure Field.IsSpaced (f : Field) : Prop where
  before : IsGap f.before
  after : IsGap f.after
  value : f.value.IsSpaced

/-! ## Data -/

/-- Whether an integer has 64 bits. -/
def FitsInt64 (n : Int) : Prop := Int64.minValue.toInt ≤ n ∧ n ≤ Int64.maxValue.toInt

/-- The ways to write a datum. -/
inductive Denotes : Text → Datum → Prop
  | null : Denotes "null".toList .null
  | boolean (value : Bool) :
      Denotes (if value then "true".toList else "false".toList) (.boolean value)
  | integer {value : Int} : FitsInt64 value → Denotes (Text.ofInt value) (.integer value)
  | text {written value : Text} : DenotesString written value →
      Denotes ('"' :: (written ++ ['"'])) (.text value)
  | list {items : List Item} {gap : Text} : IsGap gap → (∀ i ∈ items, i.IsSpaced) →
      (∀ i ∈ items, Denotes i.written i.datum) →
        Denotes ('[' :: (Text.joined [','] (items.map Item.text) ++ (gap ++ [']'])))
          (.list (items.map Item.datum))
  | record {fields : List Field} {gap : Text} : IsGap gap → (∀ f ∈ fields, f.IsSpaced) →
      (∀ f ∈ fields, DenotesString f.written f.name) →
      (∀ f ∈ fields, Denotes f.value.written f.value.datum) →
        Denotes ('{' :: (Text.joined [','] (fields.map Field.text) ++ (gap ++ ['}'])))
          (.record (fields.map Field.entry))

/-- The data that can be written: every number in them is an integer of 64 bits,
and every leaf is one that JSON has. -/
inductive IsExact : Datum → Prop
  | null : IsExact .null
  | boolean (value : Bool) : IsExact (.boolean value)
  | integer {value : Int} : FitsInt64 value → IsExact (.integer value)
  | text (value : Text) : IsExact (.text value)
  | list {items : List Datum} : (∀ item ∈ items, IsExact item) → IsExact (.list items)
  | record {fields : List (Text × Datum)} :
      (∀ field ∈ fields, IsExact field.2) → IsExact (.record fields)

/-! ## Writers and readers -/

/-- What is said of a writer: what it writes of a datum that can be written is
JSON for that datum. -/
def IsWriter (write : Datum → Text) : Prop := ∀ datum, IsExact datum → Denotes (write datum) datum

/-- What is said of a reader: it reads what is JSON for a datum as that datum,
if it is not nested too deep. -/
def IsReader (read? : Text → Option Datum) : Prop :=
  ∀ text datum, Denotes text datum → datum.depth ≤ depthLimit → read? text = some datum

end FilterQuery.Json
