import FilterQuery.Text.Quoted
import FilterQuery.Number.Layout
/-!
# Scalar values

The value of a condition is a boolean, an integer of 64 bits, a floating-point
number or a string. In a query, strings are quoted and the other values stand
bare, unless quoting is forced; an integer that does not fit 64 bits is kept as
the nearest floating-point number.
-/

namespace FilterQuery

/-- The value of a condition. -/
inductive Scalar where
  | boolean (value : Bool)
  | integer (value : Int64)
  | float (value : Float)
  | string (value : Text)
deriving BEq, Repr

namespace Scalar

def textOfBool (b : Bool) : Text := if b then "true".toList else "false".toList

/-- A floating-point number as text: never with an exponent, and a name for
each infinity and for no number. -/
def textOfFloat (x : Float) : Text :=
  match Layout.query.write? x with
  | some text => text
  | none =>
      match magnitudeOf x with
      | (true, .infinite) => "-Infinity".toList
      | (false, .infinite) => "Infinity".toList
      | _ => "NaN".toList

/-- The value as text, a string without quotes. -/
def text : Scalar → Text
  | .boolean value => textOfBool value
  | .integer value => Text.ofInt value.toInt
  | .float value => textOfFloat value
  | .string value => value

/-- The value as it stands in a query: strings are quoted, and with `force` so
is every other value. -/
def render (force : Bool) : Scalar → Text
  | .string value => Text.quote value
  | value => if force then Text.quote value.text else value.text

def stringified : Scalar → Scalar
  | .string value => .string value
  | value => .string value.text

def ofInt (n : Int) : Scalar :=
  if Int64.minValue.toInt ≤ n ∧ n ≤ Int64.maxValue.toInt then .integer (Int64.ofInt n)
  else .float (nearestFloatOfInt n)

def kind : Scalar → Text
  | .boolean _ => "boolean".toList
  | .integer _ => "integer".toList
  | .float _ => "float".toList
  | .string _ => "string".toList

end Scalar

/-- The values of a list as they stand in a query, separated by commas. -/
def renderList (values : List Scalar) : Text :=
  Text.joined [','] (values.map (Scalar.render false))

end FilterQuery
