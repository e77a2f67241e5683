import FilterQuery.LogFilter.Directive
/-!
# Log filters

Which messages are logged is said by directives, separated by commas. A filter
keeps one directive for each choice of target, span and field, the most specific
ones first.
-/

namespace FilterQuery

/-- What is logged: the directives that need no spans, and those that do. -/
structure LogFilter where
  statics : List LogFilter.Directive
  dynamics : List LogFilter.Directive
deriving BEq, Repr

namespace LogFilter

/-- A list in order of falling rank with a directive added, in place of one of
the same rank. -/
def insert (d : Directive) : List Directive → List Directive
  | [] => [d]
  | e :: rest =>
      if e.rank = d.rank then d :: rest
      else if e.rank < d.rank then d :: e :: rest
      else e :: insert d rest

def ordered (directives : List Directive) : List Directive :=
  directives.foldl (fun sorted d => insert d sorted) []

def ofDirectives (directives : List Directive) : LogFilter :=
  let dynamics := directives.filter Directive.isDynamic
  let others := directives.filter fun d => !d.isDynamic
  ⟨ordered (others ++ dynamics.filter Directive.isStatic), ordered dynamics⟩

/-- The pieces of a text between commas, empty ones left out. -/
def pieces (text : Text) : List Text := (text.splitOn ',').filter (!·.isEmpty)

def ofText? (text : Text) : Option LogFilter :=
  ((pieces text).mapM Directive.ofText?).map ofDirectives

def warnings : LogFilter := ofDirectives [{ level := .warn }]

/-- The filter that a variable asks for, warnings only if it is not set or not
a filter. -/
def ofVariable (value : Option Text) : LogFilter := (value >>= ofText?).getD warnings

def text (filter : LogFilter) : Text :=
  Text.joined [','] ((filter.statics ++ filter.dynamics).map Directive.text)

end LogFilter

end FilterQuery
