import FilterQuery.Marker
import FilterQuery.Text.Percent
import FilterQuery.Token
/-!
# Building queries

A builder holds the text of a query and, in step with it, the tokens the query
is made of. Each operation appends to both; what an operation has no value for
(no value at all, an empty list, a blank fragment) it leaves out, and the
builder stays as it was. The text is only ever trimmed at its end, before a
connective or a fragment is written.
-/

namespace FilterQuery

/-- What is fixed when a builder is made. -/
structure Options where
  encodeUri : Bool := false
  marked : Bool := false
deriving DecidableEq, Repr

/-- A query under construction. -/
structure Builder where
  text : Text
  tokens : List Token
  options : Options
deriving BEq, Repr

namespace Builder

def push (b : Builder) (piece : Text) (token : Token) : Builder :=
  { b with text := b.text ++ piece, tokens := b.tokens ++ [token] }

/-- A builder with nothing in it but the marker, if the options ask for one. -/
def ofOptions (options : Options) : Builder :=
  let empty : Builder := ⟨[], [], options⟩
  if options.marked then empty.push markerAndSpace (.raw marker) else empty

def trimmed (b : Builder) : Builder := { b with text := b.text.trimEnd }

def spaced (b : Builder) : Builder := { b with text := b.text.trimEnd ++ [' '] }

/-- The text after the marker. -/
def body (b : Builder) : Text :=
  if b.options.marked then (Text.stripStart? markerAndSpace b.text).getD b.text else b.text

/-- Whether nothing follows the marker. -/
def isEmpty (b : Builder) : Bool := b.body.allBlank

/-! ## Conditions -/

/-- Write `property operator value`, the value as a string if `quoted`; no
value, no condition. -/
def op (b : Builder) (property : Text) (operator : Operator) (value : Option Scalar)
    (quoted : Bool) : Builder :=
  match value with
  | none => b
  | some value =>
      let value := if quoted then value.stringified else value
      b.push (renderCondition property operator value ++ [' '])
        (.condition property operator value)

/-- Write `property operator [v1,v2,...]` with the values that are there; no
values, no condition. -/
def inList (b : Builder) (property : Text) (operator : ListOperator)
    (values : List (Option Scalar)) : Builder :=
  match values.filterMap id with
  | [] => b
  | value :: rest =>
      b.push (renderListCondition property operator (value :: rest) ++ [' '])
        (.listCondition property operator (value :: rest))

/-- Write a condition given as text, unless it is blank. -/
def addCondition (b : Builder) (condition : Text) : Builder :=
  if condition.allBlank then b else b.push (condition ++ [' ']) (.raw condition)

/-! ## Structure -/

/-- Write a connective with a space on either side. White space at the end is
trimmed first, that of a lone marker too. -/
def connective (b : Builder) (c : Connective) : Builder :=
  b.trimmed.push (' ' :: c.literal ++ [' ']) (.connective c)

/-- Write a parenthesis, with no space. -/
def paren (b : Builder) (p : Paren) : Builder := b.push p.literal (.paren p)

/-! ## Composition -/

def endsWithOpening (text : Text) : Bool := text.getLast? == some '('

def endsWithConnective (text : Text) : Bool :=
  Connective.all.any fun c => c.literal.isSuffixOf text

/-- The builder made ready for a fragment: after other text, other than an
opening parenthesis, the connective or one space is written. No connective is
written after another one. -/
def separated (b : Builder) (joiner : Option Connective) : Builder :=
  let current := b.body.trim
  if current.isEmpty || endsWithOpening current then b
  else
    match joiner with
    | some c => if endsWithConnective current then b.spaced else b.connective c
    | none => b.spaced

/-- Append query text as it is, without a marker at its start; a blank fragment
is left out. -/
def append (b : Builder) (fragment : Text) (joiner : Option Connective) : Builder :=
  let incoming := stripMarker fragment
  if incoming.allBlank then b else (b.separated joiner).push incoming (.raw incoming)

def merge (b other : Builder) (joiner : Option Connective) : Builder :=
  b.append other.text joiner

/-- The text of a builder as a group: trimmed, without the marker, in
parentheses. -/
def group (b : Builder) : Text := '(' :: stripMarker b.text.trim ++ [')']

/-- Append another builder's text as a group. Unlike with fragments, the
connective is written whenever anything stands before. -/
def concat (b other : Builder) (joiner : Option Connective) : Builder :=
  let joined :=
    match joiner with
    | some c => if b.isEmpty then b else b.connective c
    | none => b
  joined.push (other.group ++ [' ']) (.raw other.group)

/-! ## Replaying tokens -/

def endsBlank (text : Text) : Bool := text.getLast?.any isBlank

/-- Append recorded text again, and a space if text was added that does not end
with white space. -/
def replayRaw (b : Builder) (text : Text) : Builder :=
  let appended := b.append text none
  if appended.tokens.length > b.tokens.length && !endsBlank appended.text then
    { appended with text := appended.text ++ [' '] }
  else appended

def apply (b : Builder) : Token → Builder
  | .condition property operator value =>
      b.op property operator (some value) operator.isPattern
  | .listCondition property operator values => b.inList property operator (values.map some)
  | .connective c => b.connective c
  | .paren p => b.paren p
  | .raw text => b.replayRaw text

/-- The builder that a list of tokens is replayed into. -/
def ofTokens (options : Options) (tokens : List Token) : Builder :=
  tokens.foldl apply (ofOptions options)

/-! ## The finished query -/

/-- A reversed text without the connectives and the white space at its front. -/
def dropDangling : Text → Text
  | [] => []
  | [c] => if isBlank c then [] else [c]
  | c :: d :: rest =>
      if isBlank c then dropDangling (d :: rest)
      else if (c = '&' ∧ d = '&') ∨ (c = '|' ∧ d = '|') then dropDangling rest
      else c :: d :: rest

/-- The query without percent-encoding: the text without white space at its
ends and without the connectives that end it. -/
def plainQuery (b : Builder) : Text := (dropDangling b.text.trimStart.reverse).reverse

def build (b : Builder) : Text :=
  if b.options.encodeUri then b.plainQuery.percentEncode else b.plainQuery

end Builder

end FilterQuery
