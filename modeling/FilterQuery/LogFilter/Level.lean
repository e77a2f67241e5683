import FilterQuery.Number.Decimal
import FilterQuery.Text.Lowercase
/-!
# Log levels

A level says how much is logged: nothing, or all messages up to some weight. It
is written as its name or as its number.
-/

namespace FilterQuery

/-- How much is logged. -/
inductive LogLevel where
  | off
  | error
  | warn
  | info
  | debug
  | trace
deriving DecidableEq, Repr

namespace LogLevel

/-- All levels, each with more messages than the one before. -/
def all : List LogLevel := [.off, .error, .warn, .info, .debug, .trace]

def name : LogLevel → Text
  | .off => "off".toList
  | .error => "error".toList
  | .warn => "warn".toList
  | .info => "info".toList
  | .debug => "debug".toList
  | .trace => "trace".toList

/-- The natural number that a text of digits is, perhaps after a plus sign. -/
def number? (text : Text) : Option Nat :=
  if text.head? = some '-' then none else (readInt? text).map Int.toNat

/-- The level that a name in any letter case, or its number, stands for. -/
def ofText? (text : Text) : Option LogLevel :=
  match number? text >>= (all[·]?) with
  | some level => some level
  | none => all.find? fun level => Text.eqIgnoreAsciiCase level.name text

end LogLevel

end FilterQuery
