import FilterQuery.Number.Decimal
import FilterQuery.Number.Layout
import FilterQuery.Pattern.Reader
/-!
# Fields in log filters

A directive may ask for a field of a span, and for the value of that field: a
boolean, a number, or a text that fits a pattern. Values are ordered by their
kind first, patterns being the greatest ones.
-/

namespace FilterQuery.LogFilter

/-! ## Values -/

/-- The value that a field must have. -/
inductive FieldValue where
  | boolean (value : Bool)
  | float (value : Float)
  | notANumber
  | natural (value : Nat)
  | integer (value : Int)
  | pattern (text : Text)
deriving BEq, Repr

namespace FieldValue

/-- The number that a text is: a natural number or an integer of 64 bits, or
else a floating-point number. -/
def number? (text : Text) : Option FieldValue :=
  let whole : Option FieldValue := do
    let n ← readInt? text
    if text.head? ≠ some '-' ∧ n < UInt64.size then some (.natural n.toNat)
    else if Int64.minValue.toInt ≤ n ∧ n ≤ 0 then some (.integer n)
    else none
  whole <|> (readNumber? Decimal.toFloat text).map fun x =>
    if x.isNaN then .notANumber else .float x

/-- The value that a text is; nothing if it is a pattern that cannot be run. -/
def ofText? (text : Text) : Option FieldValue :=
  if text = "true".toList then some (.boolean true)
  else if text = "false".toList then some (.boolean false)
  else
    match number? text with
    | some value => some value
    | none => if (Pattern.read? text).any Pattern.isUsable then some (.pattern text) else none

/-- A value as text: numbers in their usual form, patterns as they are. -/
def text : FieldValue → Text
  | .boolean value => (if value then "true" else "false").toList
  | .float value =>
      (Layout.query.write? value).getD (if value < 0 then "-inf" else "inf").toList
  | .notANumber => "NaN".toList
  | .natural value => Text.ofNat value
  | .integer value => Text.ofInt value
  | .pattern text => text

/-- A natural number that orders floating-point numbers, both zeros being
equal. -/
def floatRank (x : Float) : Nat :=
  let bits := x.toBits.toNat
  let middle := Nat.pow 2 63
  if bits < middle then middle + bits else middle - (bits - middle)

def rank : FieldValue → List Nat
  | .boolean value => [0, value.toNat]
  | .float value => [1, floatRank value]
  | .notANumber => [2]
  | .natural value => [3, value]
  | .integer value => [4, (value - Int64.minValue.toInt).toNat]
  | .pattern text => 5 :: text.map Char.toNat

end FieldValue

/-! ## Fields -/

/-- A field of a span, perhaps with the value it must have. -/
structure Field where
  name : Text
  value : Option FieldValue
deriving BEq, Repr

namespace Field

/-- The field written between braces. What follows a second equals sign is left
out. -/
def ofText? (text : Text) : Option Field :=
  if text.isEmpty then none
  else
    let name := text.takeWhile (· != '=')
    match text.dropWhile (· != '=') with
    | [] => some ⟨name, none⟩
    | _ :: value => do some ⟨name, some (← FieldValue.ofText? (value.takeWhile (· != '=')))⟩

def text (field : Field) : Text :=
  match field.value with
  | none => field.name
  | some value => field.name ++ '=' :: value.text

/-- What decides which of two fields is more specific: whether there is a
value, the name, and then the value. -/
def rank (field : Field) : List (List Nat) :=
  [[field.value.toList.length], field.name.map Char.toNat,
    (field.value.map FieldValue.rank).getD []]

end Field

end FilterQuery.LogFilter
