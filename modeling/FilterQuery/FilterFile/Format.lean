import FilterQuery.Path
import FilterQuery.Text.Lowercase
/-!
# Formats of filter files

A filter file is TOML or JSON. The extension of its path, in any letter case,
says which; a path without one is taken to lead to TOML, and any other extension
is refused.
-/

namespace FilterQuery

/-- The format of a filter file. -/
inductive FileFormat where
  | toml
  | json
deriving DecidableEq, Repr

namespace FileFormat

def all : List FileFormat := [.toml, .json]

def name : FileFormat → Text
  | .toml => "toml".toList
  | .json => "json".toList

def ofName? (text : Text) : Option FileFormat := all.find? fun format => format.name == text

/-- The format that a path asks for, or else its extension in lower case. -/
def ofPath (path : Text) : Except Text FileFormat :=
  match Path.extension? path with
  | none => .ok .toml
  | some written =>
      let lower := written.lowercase
      match ofName? lower with
      | some format => .ok format
      | none => .error lower

end FileFormat

end FilterQuery
