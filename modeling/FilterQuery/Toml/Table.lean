import FilterQuery.Datum
/-!
# Tables of a TOML document

A document fills a tree of tables piece by piece. How a table came to be says
what may still be added to it: a table with a header of its own has no second
header; a table that is only on the way to others may still get a header; a
table made by a dotted key is filled by dotted keys only. A value, also one that
holds other values, is never added to.
-/

namespace FilterQuery.Toml

/-- How a table came to be. -/
inductive Origin where
  /-- It has a header, or is the whole document, or stands in a list of tables. -/
  | stated
  /-- It is on the path of the header of another table. -/
  | implied
  | dotted
deriving DecidableEq, Repr

/-- What a name in a table stands for: a value, a table, or a list of tables
that is not empty, its last table being open. -/
inductive Node where
  | value (datum : Datum)
  | table (origin : Origin) (nodes : List (Text × Node))
  | tables (before : List (List (Text × Node))) (last : List (Text × Node))

/-- The names of a table and what they stand for. -/
abbrev Table := List (Text × Node)

/-! ## Changing a table -/

namespace Table

/-- The table with what stands at a name changed, `change` being given nothing
if the name is new; nothing if there is no such change. -/
def alter? (change : Option Node → Option Node) (name : Text) : Table → Option Table
  | [] => do some [(name, ← change none)]
  | (other, node) :: rest =>
      if other = name then do some ((name, ← change (some node)) :: rest)
      else do some ((other, node) :: (← alter? change name rest))

def insert? (name : Text) (node : Node) : Table → Option Table :=
  alter? (fun | none => some node | some _ => none) name

end Table

/-- The node with the table on a path changed, the table being made where
there is none, as one that the path implies. In a list of tables it is the last
one. -/
def enterPath? (change : Table → Option Table) : Option Node → Option Node
  | none => do some (.table .implied (← change []))
  | some (.value _) => none
  | some (.table origin nodes) => do some (.table origin (← change nodes))
  | some (.tables before last) => do some (.tables before (← change last))

/-- The node with the table on the path of a dotted key changed, the table
being made where there is none. `change` is given the origin of the table, too;
a table with a header of its own is not entered. -/
def enterDotted? (change : Origin → Table → Option Table) : Option Node → Option Node
  | none => do some (.table .dotted (← change .dotted []))
  | some (.value _) => none
  | some (.table .stated _) => none
  | some (.table origin nodes) => do some (.table origin (← change origin nodes))
  | some (.tables before last) => do some (.tables before (← change .stated last))

/-! ## Keys and headers -/

/-- A name, or several names separated by dots: the names on the way, and the
last one. -/
structure Key where
  path : List Text
  name : Text
deriving DecidableEq, Repr

namespace Table

/-- The value put into a table under the last part of a dotted key, if the path
has led to a table that was made by a dotted key. -/
def assignDotted? (name : Text) (datum : Datum) : List Text → Origin → Table → Option Table
  | [], .dotted, table => table.insert? name (.value datum)
  | [], _, _ => none
  | next :: path, _, table => table.alter? (enterDotted? (assignDotted? name datum path)) next

def assign? (table : Table) (key : Key) (datum : Datum) : Option Table :=
  if key.path.isEmpty then table.insert? key.name (.value datum)
  else table.assignDotted? key.name datum key.path .dotted

def onPath? (change : Table → Option Table) : List Text → Table → Option Table
  | [], table => change table
  | next :: path, table => table.alter? (enterPath? (onPath? change path)) next

end Table

/-- The node with the table of a header changed: a table that is new, or that
has no header yet. -/
def fillTable? (change : Table → Option Table) : Option Node → Option Node
  | none => do some (.table .stated (← change []))
  | some (.table .implied nodes) => do some (.table .stated (← change nodes))
  | some _ => none

/-- The node with a new table added to a list of tables. -/
def addTable? (change : Table → Option Table) : Option Node → Option Node
  | none => do some (.tables [] (← change []))
  | some (.tables before last) => do some (.tables (before ++ [last]) (← change []))
  | some _ => none

/-! ## As data -/

mutual

/-- What a name stands for, as a datum. -/
def Node.toDatum : Node → Datum
  | .value datum => datum
  | .table _ nodes => .record (fieldsOf nodes)
  | .tables before last => .list (recordsOf before ++ [.record (fieldsOf last)])

def fieldsOf : List (Text × Node) → List (Text × Datum)
  | [] => []
  | (name, node) :: rest => (name, node.toDatum) :: fieldsOf rest

def recordsOf : List (List (Text × Node)) → List Datum
  | [] => []
  | table :: rest => .record (fieldsOf table) :: recordsOf rest

end

end FilterQuery.Toml
