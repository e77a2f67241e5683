import FilterQuery.LogFilter.Field
import FilterQuery.LogFilter.Level
/-!
# Directives of log filters

A directive names a level, or a target with a level, and may add a span in
brackets, with a field in braces. Directives are ordered by how specific they
are.
-/

namespace FilterQuery.LogFilter

/-- What is logged of a target, a span or a field. -/
structure Directive where
  target : Option Text := none
  span : Option Text := none
  field : Option Field := none
  level : LogLevel := .trace
deriving BEq, Repr

/-! ## Reading -/

/-- Where the reader of a directive stands: before it, in a level or a target,
in a span, in a field, after a field, after a span, or in a level. -/
inductive Place where
  | start
  | word
  | span
  | field
  | afterField
  | afterSpan
  | level
deriving DecidableEq, Repr

/-- Whether a level or a target can start with a character. -/
def isWordStart (c : Char) : Bool := c == '-' || c == ':' || c == '_' || isLetterOrNumeral c

/-- The directive that ends at some place, its last part being written from a
byte on. A word that is no level is a target of which everything is logged. -/
def finish? (written : Text) (d : Directive) (start : Nat) : Place → Option Directive
  | .word => do
      let word ← written.dropBytes? start
      match LogLevel.ofText? word with
      | some level => some { d with level }
      | none => some { d with target := some word }
  | .level => do
      let word ← written.dropBytes? start
      if word.isEmpty then some d else (LogLevel.ofText? word).map fun level => { d with level }
  | .afterSpan => some d
  | _ => none

/-- The directive written by a text. It is scanned without the white space
around it, `stop` being the byte where the scan stands and `start` the one where
the part under way begins, while its parts are cut from the text as it is
written, at the same bytes. -/
def scan? (written : Text) (d : Directive) (place : Place) (start stop : Nat) :
    Text → Option Directive
  | [] => finish? written d start place
  | c :: rest =>
      let next := stop + c.utf8Size
      match place with
      | .start =>
          if c = '[' then scan? written d .span next next rest
          else if isWordStart c then scan? written d .word stop next rest
          else none
      | .word =>
          if c = '=' ∨ c = '[' then
            match written.slice? start stop with
            | some target =>
                let place := if c = '=' then .level else .span
                scan? written { d with target := some target } place next next rest
            | none => none
          else scan? written d .word start next rest
      | .span =>
          if c = ']' then
            match written.slice? start stop with
            | some span => scan? written { d with span := some span } .afterSpan next next rest
            | none => none
          else if c = '\x7b' then
            match written.slice? start stop with
            | some span =>
                let span := if span.isEmpty then none else some span
                scan? written { d with span } .field next next rest
            | none => none
          else scan? written d .span start next rest
      | .field =>
          if c = '\x7d' then
            match written.slice? start stop >>= Field.ofText? with
            | some field =>
                scan? written { d with field := some field } .afterField next next rest
            | none => none
          else scan? written d .field start next rest
      | .afterField => if c = ']' then scan? written d .afterSpan next next rest else none
      | .afterSpan => if c = '=' then scan? written d .level next next rest else none
      | .level => scan? written d .level start next rest

namespace Directive

def ofText? (text : Text) : Option Directive := scan? text {} .start 0 0 text.trim

/-! ## Writing -/

/-- What a directive is about, as text. -/
def subject (d : Directive) : Text :=
  let inside := d.span.getD [] ++
    match d.field with
    | none => []
    | some field => '\x7b' :: field.text ++ ['\x7d']
  d.target.getD [] ++
    if d.span.isNone && d.field.isNone then [] else '[' :: inside ++ [']']

def text (d : Directive) : Text :=
  if d.target.isNone && d.span.isNone && d.field.isNone then d.level.name
  else d.subject ++ '=' :: d.level.name

/-! ## Order -/

/-- Whether a directive can be decided without looking at the spans that are
open. -/
def isStatic (d : Directive) : Bool :=
  d.span.isNone && !d.field.any fun field => field.value.isSome

def isDynamic (d : Directive) : Bool := d.span.isSome || d.field.isSome

/-- What decides which of two directives is more specific: the length of the
target, whether there are a span and a field, and then what they are. -/
def rank (d : Directive) : List (List Nat) :=
  let codes (text : Option Text) : List Nat := (text.getD []).map Char.toNat
  [[(d.target.map (·.utf8Size + 1)).getD 0], [d.span.toList.length], [d.field.toList.length],
    codes d.target, codes d.span] ++ (d.field.map Field.rank).getD []

end Directive

end FilterQuery.LogFilter
