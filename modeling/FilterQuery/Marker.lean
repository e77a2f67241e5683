import FilterQuery.Text.Blank
/-!
# The filter marker

Some consumers expect a query to start with the marker `Filters=`. A query
written with the marker has one space after it; a query read with it may have
any white space there. One marker at most is taken off.
-/

namespace FilterQuery

def marker : Text := "Filters=".toList

/-- The marker as it is written, with the space that follows it. -/
def markerAndSpace : Text := marker ++ [' ']

/-- The text without one leading marker and the white space after it. -/
def stripMarker (text : Text) : Text :=
  match Text.stripStart? marker text with
  | some rest => rest.trimStart
  | none => text

end FilterQuery
