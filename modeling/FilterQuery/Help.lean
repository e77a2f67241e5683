import FilterQuery.Terminal.Example
/-!
# Help

The parts of the help text: how its sections follow each other, the list of the
commands, and some examples to start from.
-/

namespace FilterQuery.Help

open Terminal

/-- The order of the sections of the help text, the options under a heading of
their own. -/
def template (colored : Bool) : Text :=
  "\x7babout-with-newline\x7d\n\x7busage-heading\x7d \x7busage\x7d\n\n\x7bbefore-help\x7d".toList ++
    Style.heading.paintIf colored "Options:".toList ++
    "\n\x7boptions\x7d\x7bafter-help\x7d".toList

/-- A group of commands: its heading, and each command with what it does. -/
structure Group where
  heading : Text
  commands : List (Text × Text)

def queries : Group where
  heading := "Queries:".toList
  commands := [
    ("validate".toList, "Check a query's structure".toList),
    ("tokens".toList, "Show how a query is lexed".toList),
    ("build".toList, "Build a query from a filter file".toList)]

def reference : Group where
  heading := "Reference:".toList
  commands := [
    ("operators".toList, "List operator literals".toList),
    ("schema".toList, "Output JSON Schema for filter files".toList),
    ("completions".toList, "Generate shell completions".toList)]

/-- The line of a command, the names being filled up to one width. -/
def entry (colored : Bool) (name about : Text) : Text :=
  "\n  ".toList ++ Style.literal.paintIf colored (name.padRight 11) ++ "  ".toList ++ about

def Group.text (group : Group) (colored : Bool) : Text :=
  Style.heading.paintIf colored group.heading ++
    group.commands.flatMap fun (name, about) => entry colored name about

def commands (colored : Bool) : Text :=
  queries.text colored ++ "\n\n".toList ++ reference.text colored ++ ['\n']

def plainQuickstart : Text :=
  ("Examples:\n" ++
    "  qk validate \"Age >= 21 && Active == true\"    Validate a query\n" ++
    "  qk build filter.toml --check                 Build and validate a stored filter\n" ++
    "  qk operators -o json                         Dump the operator catalog").toList

def quickstart (colored : Bool) : Text := examples colored plainQuickstart

/-! ## Styles of the help text -/

/-- The parts of the help text that have a style. -/
inductive Part where
  | heading
  | usage
  | literal
  | placeholder
  | valid
deriving DecidableEq, Repr

def Part.style : Part → Style
  | .heading | .usage => .heading
  | .literal => .literal
  | .placeholder | .valid => .context

/-- The escape sequence that begins a part, empty without colours. -/
def Part.opening (part : Part) (colored : Bool) : Text :=
  if colored then part.style.opening else []

end FilterQuery.Help
