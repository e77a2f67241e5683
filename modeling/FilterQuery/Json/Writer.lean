import FilterQuery.Datum
import FilterQuery.Number.Layout
/-!
# Writing JSON

Data are written as JSON either without any white space or with one item or
field a line, two spaces for each level. In strings only the double quote, the
backslash and the characters below U+0020 are escaped. A number that is not
finite, and anything else that JSON has no notation for, is written as `null`.
-/

namespace FilterQuery.Json

/-- Where white space goes: what begins a line at some depth, and what follows
a colon. -/
structure Spacing where
  lineStart : Nat → Text
  afterColon : Text

def Spacing.compact : Spacing := ⟨fun _ => [], []⟩

def Spacing.pretty : Spacing := ⟨fun depth => '\n' :: List.replicate (2 * depth) ' ', [' ']⟩

def lowerHexDigit (n : Nat) : Char :=
  if n < 10 then Char.ofNat ('0'.toNat + n) else Char.ofNat ('a'.toNat + (n - 10))

def writeChar (c : Char) : Text :=
  if c = '"' ∨ c = '\\' then ['\\', c]
  else if c = '\x08' then ['\\', 'b']
  else if c = '\x0c' then ['\\', 'f']
  else if c = '\n' then ['\\', 'n']
  else if c = '\r' then ['\\', 'r']
  else if c = '\t' then ['\\', 't']
  else if c.toNat < 0x20 then
    ['\\', 'u', '0', '0', lowerHexDigit (c.toNat / 16), lowerHexDigit (c.toNat % 16)]
  else [c]

def writeString (text : Text) : Text := '"' :: text.flatMap writeChar ++ ['"']

def writeFloat (x : Float) : Text := (Layout.json.write? x).getD "null".toList

mutual

def writeAt (s : Spacing) (depth : Nat) : Datum → Text
  | .boolean value => if value then "true".toList else "false".toList
  | .integer value => Text.ofInt value
  | .float value => writeFloat value
  | .text value => writeString value
  | .list [] => ['[', ']']
  | .list (item :: items) =>
      '[' :: s.lineStart (depth + 1) ++ writeAt s (depth + 1) item ++
        writeItems s (depth + 1) items ++ s.lineStart depth ++ [']']
  | .record [] => ['{', '}']
  | .record ((name, value) :: fields) =>
      '{' :: s.lineStart (depth + 1) ++ writeString name ++ ':' :: s.afterColon ++
        writeAt s (depth + 1) value ++
        writeFields s (depth + 1) fields ++ s.lineStart depth ++ ['}']
  | .null | .moment _ | .unreadable => "null".toList

def writeItems (s : Spacing) (depth : Nat) : List Datum → Text
  | [] => []
  | item :: items =>
      ',' :: s.lineStart depth ++ writeAt s depth item ++ writeItems s depth items

def writeFields (s : Spacing) (depth : Nat) : List (Text × Datum) → Text
  | [] => []
  | (name, value) :: fields =>
      ',' :: s.lineStart depth ++ writeString name ++ ':' :: s.afterColon ++
        writeAt s depth value ++ writeFields s depth fields

end

def write (s : Spacing) (datum : Datum) : Text := writeAt s 0 datum

end FilterQuery.Json
