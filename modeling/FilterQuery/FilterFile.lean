import FilterQuery.Builder
import FilterQuery.FilterFile.Format
import FilterQuery.Token.Record
import FilterQuery.Toml.Reader
/-!
# Filter files

A filter can be stored: a file holds the options of a builder and the tokens to
replay into it. What a file leaves out has its default, and fields of other
names do not matter, whatever they hold. In JSON the parts may also stand in a
list, in order, the last ones being left out.
-/

namespace FilterQuery

/-- A stored filter. -/
structure FilterFile where
  options : Options := {}
  tokens : List Token := []
deriving BEq, Repr

namespace FilterFile

def toBuilder (file : FilterFile) : Builder := .ofTokens file.options file.tokens

/-! ## The parts of a file -/

def encodeUriName : Text := "encode_uri".toList

def markedName : Text := "filter_prefix".toList

def tokensName : Text := "tokens".toList

/-- The names of all fields, in order. -/
def fieldNames : List Text := [encodeUriName, markedName, tokensName]

/-- The value of a part that may be left out. -/
def part? {α : Type} (read? : Datum → Option α) (default : α) : List Datum → Option α
  | [] => some default
  | [datum] => read? datum
  | _ => none

/-- The file with the given parts, each of them at most once. -/
def ofParts? (encodeUri marked tokens : List Datum) : Option FilterFile := do
  let encodeUri ← part? Datum.boolean? false encodeUri
  let marked ← part? Datum.boolean? false marked
  let tokens ← part? tokensOfDatum? [] tokens
  some ⟨⟨encodeUri, marked⟩, tokens⟩

def ofDatum? : Datum → Option FilterFile
  | .record fields =>
      ofParts? (Datum.fieldsNamed encodeUriName fields) (Datum.fieldsNamed markedName fields)
        (Datum.fieldsNamed tokensName fields)
  | .list items =>
      if items.length ≤ fieldNames.length then
        ofParts? (items.take 1) ((items.drop 1).take 1) (items.drop 2)
      else none
  | _ => none

/-! ## Reading -/

def relevant : Datum → Datum
  | .record fields => .record (fields.filter fun field => fieldNames.contains field.1)
  | datum => datum

/-- The file that a JSON text is. Fields of other names may be nested to any
depth. -/
def ofJson? (text : Text) : Option FilterFile := do
  let datum := relevant (← Json.read? text)
  if datum.depth ≤ Json.depthLimit then ofDatum? datum else none

def ofToml? (text : Text) : Option FilterFile := Toml.read? text >>= ofDatum?

def parse? (format : FileFormat) (text : Text) : Option FilterFile :=
  match format with
  | .toml => ofToml? text
  | .json => ofJson? text

end FilterFile

end FilterQuery
