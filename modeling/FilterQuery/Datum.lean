import FilterQuery.Text
/-!
# Data

Documents, in whatever notation, are trees of data. A record keeps its fields
as they stand in the document, repeated names included, so that a reader of the
record can refuse them. Two kinds of leaves are never the value of anything: a
moment, which is a date or a time, and a place that is well formed but has no
value, such as a number beyond every floating-point number.
-/

namespace FilterQuery

/-- A tree of data. -/
inductive Datum where
  | null
  | boolean (value : Bool)
  | integer (value : Int)
  | float (value : Float)
  | text (value : Text)
  | moment (written : Text)
  | unreadable
  | list (items : List Datum)
  | record (fields : List (Text × Datum))

namespace Datum

mutual

def isReadable : Datum → Bool
  | .unreadable => false
  | .list items => areReadable items
  | .record fields => fieldsReadable fields
  | _ => true

/-- Whether every place in each of the trees has a value. -/
def areReadable : List Datum → Bool
  | [] => true
  | item :: rest => isReadable item && areReadable rest

/-- Whether every place in each of the fields has a value. -/
def fieldsReadable : List (Text × Datum) → Bool
  | [] => true
  | (_, item) :: rest => isReadable item && fieldsReadable rest

end

mutual

/-- How many lists and records are nested in each other. -/
def depth : Datum → Nat
  | .list items => depths items + 1
  | .record fields => fieldsDepth fields + 1
  | _ => 0

def depths : List Datum → Nat
  | [] => 0
  | item :: rest => max (depth item) (depths rest)

def fieldsDepth : List (Text × Datum) → Nat
  | [] => 0
  | (_, item) :: rest => max (depth item) (fieldsDepth rest)

end

def ofFields (fields : List (String × Datum)) : Datum :=
  .record (fields.map fun (name, value) => (name.toList, value))

def text? : Datum → Option Text
  | .text value => some value
  | _ => none

def boolean? : Datum → Option Bool
  | .boolean value => some value
  | _ => none

/-- The name of a choice: a text, or the name of the only field of a record
that holds nothing. -/
def choice? : Datum → Option Text
  | .text value => some value
  | .record [(name, .null)] => some name
  | .record [(name, .record [])] => some name
  | _ => none

def fieldsNamed (name : Text) (fields : List (Text × Datum)) : List Datum :=
  (fields.filter fun field => field.1 == name).map Prod.snd

/-- The field with the given name; nothing if there is none or more than one. -/
def field? (name : Text) (fields : List (Text × Datum)) : Option Datum :=
  match fieldsNamed name fields with
  | [value] => some value
  | _ => none

/-- The parts with the given names, in their order. A record has each of them
as a field, once, and other fields do not matter; a list has them in order and
nothing else. -/
def parts? (names : List Text) : Datum → Option (List Datum)
  | .record fields => names.mapM fun name => field? name fields
  | .list items => if items.length = names.length then some items else none
  | _ => none

end Datum

end FilterQuery
