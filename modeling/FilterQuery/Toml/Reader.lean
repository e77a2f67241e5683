import FilterQuery.Toml.Bare
import FilterQuery.Toml.Quoted
import FilterQuery.Toml.Table
/-!
# Reading TOML

A document is a list of statements: assignments of values to keys, and headers
that open a table for the assignments after them. A statement ends with its
line, but lists and records in braces may go over several lines. Lists and
records within each other are read up to `levelLimit` of them, and so are the
names of a key.
-/

namespace FilterQuery.Toml

/-- How deep lists and records may be nested, and how many names a key may have. -/
def levelLimit : Nat := 80

/-! ## Between the parts -/

/-- The text without the spaces and tabs at its front. -/
def skipSpace (text : Text) : Text := text.dropWhile isSpace

/-- The text without the white space, line ends and comments at its front, a
comment being open if `comment`; nothing if a comment holds a control
character. -/
def skipGaps? : (comment : Bool) → Text → Option Text
  | _, [] => some []
  | true, c :: rest =>
      if isNewline c then skipGaps? false rest
      else if isControl c then none
      else skipGaps? true rest
  | false, c :: rest =>
      if isSpace c || isNewline c then skipGaps? false rest
      else if c = '#' then skipGaps? true rest
      else some (c :: rest)

/-- Whether nothing but a comment stands between here and the end of the line. -/
def endsLine : Text → Bool
  | [] => true
  | c :: _ => isNewline c || c == '#'

/-! ## Keys -/

/-- Whether a character can stand in a name without quotes. -/
def isNameChar (c : Char) : Bool := c.isAlphanum || c == '_' || c == '-'

/-- The name at the front of a text, and what follows. -/
def readName? (text : Text) : Option (Text × Text) :=
  match text.takeWhile isNameChar with
  | [] => readShort? text
  | name => some (name, text.dropWhile isNameChar)

/-- The key at the front of a text, and what follows the white space after it.
The first argument is the number of names that may still come. -/
def readNames? : Nat → Text → Option (Key × Text)
  | 0, _ => none
  | names + 1, text => do
      let (name, rest) ← readName? text
      match skipSpace rest with
      | '.' :: rest =>
          let (key, rest) ← readNames? names (skipSpace rest)
          some (⟨name :: key.path, key.name⟩, rest)
      | rest => some (⟨[], name⟩, rest)

/-- The key at the front of a text, and what follows the white space after it. -/
def readKey? (text : Text) : Option (Key × Text) := readNames? levelLimit text

/-! ## Values -/

/-- Whether a character can stand in a value without quotes. -/
def isBareChar (c : Char) : Bool :=
  c.isAlphanum || c == '_' || c == '+' || c == '-' || c == '.' || c == ':'

/-- The value without quotes at the front of a text, and what follows. A time
may stand one space after a date. -/
def readWord? (text : Text) : Option (Datum × Text) :=
  let word := text.takeWhile isBareChar
  match text.dropWhile isBareChar with
  | ' ' :: digit :: rest =>
      if digit.isDigit ∧ afterDate? word = some [] then
        (readBare? (word ++ ' ' :: digit :: rest.takeWhile isBareChar)).map
          (·, rest.dropWhile isBareChar)
      else (readBare? word).map (·, ' ' :: digit :: rest)
  | rest => (readBare? word).map (·, rest)

def Table.assignAll? (assignments : List (Key × Datum)) (table : Table) : Option Table :=
  assignments.foldlM (fun table (key, datum) => table.assign? key datum) table

mutual

/-- The value at the front of a text, and what follows. The first argument is
the number of lists and records that may still be nested, the second one bounds
the recursion. -/
def readValue? : Nat → Nat → Text → Option (Datum × Text)
  | _, 0, _ => none
  | levels, fuel + 1, text =>
      match levels, text with
      | 0, '[' :: _ => none
      | 0, '\x7b' :: _ => none
      | levels + 1, '[' :: rest => do
          let (items, after) ← readItems? levels fuel rest
          some (.list items, after)
      | levels + 1, '\x7b' :: rest => do
          let (assignments, after) ← readAssignments? levels fuel rest
          let table ← Table.assignAll? assignments []
          some (.record (fieldsOf table), after)
      | _, '"' :: rest => (readQuoted? ('"' :: rest)).map fun (text, after) => (.text text, after)
      | _, '\'' :: rest =>
          (readQuoted? ('\'' :: rest)).map fun (text, after) => (.text text, after)
      | _, text => readWord? text

/-- The items of a list up to its closing bracket, and what follows. -/
def readItems? : Nat → Nat → Text → Option (List Datum × Text)
  | _, 0, _ => none
  | levels, fuel + 1, text => do
      match ← skipGaps? false text with
      | ']' :: after => some ([], after)
      | text =>
          let (item, rest) ← readValue? levels fuel text
          match ← skipGaps? false rest with
          | ',' :: rest =>
              let (items, after) ← readItems? levels fuel rest
              some (item :: items, after)
          | ']' :: after => some ([item], after)
          | _ => none

/-- The assignments of a record up to its closing brace, and what follows. -/
def readAssignments? : Nat → Nat → Text → Option (List (Key × Datum) × Text)
  | _, 0, _ => none
  | levels, fuel + 1, text => do
      match ← skipGaps? false text with
      | '\x7d' :: after => some ([], after)
      | text =>
          let (key, rest) ← readKey? text
          let '=' :: rest ← skipGaps? false rest | none
          let (value, rest) ← readValue? levels fuel (← skipGaps? false rest)
          match ← skipGaps? false rest with
          | ',' :: rest =>
              let (assignments, after) ← readAssignments? levels fuel rest
              some ((key, value) :: assignments, after)
          | '\x7d' :: after => some ([(key, value)], after)
          | _ => none

end

/-! ## Statements -/

/-- A statement of a document. -/
inductive Statement where
  | assignment (key : Key) (datum : Datum)
  /-- The header of a table, one of a list of tables if `repeated`. -/
  | header (repeated : Bool) (key : Key)

/-- The statement at the front of a text, and what follows. -/
def readStatement? (fuel : Nat) : Text → Option (Statement × Text)
  | '[' :: '[' :: rest => do
      let (key, rest) ← readKey? (skipSpace rest)
      some (.header true key, ← Text.stripStart? [']', ']'] rest)
  | '[' :: rest => do
      let (key, rest) ← readKey? (skipSpace rest)
      some (.header false key, ← Text.stripStart? [']'] rest)
  | text => do
      let (key, rest) ← readKey? text
      let '=' :: rest := rest | none
      let (datum, rest) ← readValue? levelLimit fuel (skipSpace rest)
      some (.assignment key datum, rest)

/-- The statements of a text. The first argument bounds the recursion. -/
def readStatements? : Nat → Text → Option (List Statement)
  | 0, _ => none
  | fuel + 1, text => do
      match ← skipGaps? false text with
      | [] => some []
      | text =>
          let (statement, rest) ← readStatement? fuel text
          let rest := skipSpace rest
          if endsLine rest then some (statement :: (← readStatements? fuel rest)) else none

/-! ## Documents -/

/-- A header with the assignments after it. -/
structure Section where
  repeated : Bool
  key : Key
  assignments : List (Key × Datum)

/-- The assignments before the first header, and the sections. -/
def sections : List Statement → List (Key × Datum) × List Section
  | [] => ([], [])
  | .assignment key datum :: rest =>
      let (assignments, following) := sections rest
      ((key, datum) :: assignments, following)
  | .header repeated key :: rest =>
      let (assignments, following) := sections rest
      ([], ⟨repeated, key, assignments⟩ :: following)

def Table.addSection? (root : Table) (part : Section) : Option Table :=
  let fill := Table.assignAll? part.assignments
  let change := if part.repeated then addTable? fill else fillTable? fill
  root.onPath? (Table.alter? change part.key.name) part.key.path

def Table.ofStatements? (statements : List Statement) : Option Table := do
  let (assignments, parts) := sections statements
  parts.foldlM Table.addSection? (← Table.assignAll? assignments [])

def returnsEndLines : Text → Bool
  | [] => true
  | ['\r'] => false
  | c :: d :: rest => (c != '\r' || d == '\n') && returnsEndLines (d :: rest)
  | [_] => true

/-- The text without a byte order mark at its front. -/
def dropByteOrderMark : Text → Text
  | '\uFEFF' :: rest => rest
  | text => text

def read? (document : Text) : Option Datum := do
  let text := dropByteOrderMark document
  if !returnsEndLines text then none
  let statements ← readStatements? (text.length + 1) text
  some (.record (fieldsOf (← Table.ofStatements? statements)))

end FilterQuery.Toml
