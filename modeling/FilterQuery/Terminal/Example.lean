import FilterQuery.Terminal.Style
import FilterQuery.Text.Blank
/-!
# Coloured examples

A block of examples has a line that ends with a colon as its heading, and lines
with a command, two or more spaces and a description. Words of a command are
literals, except that quoted arguments and placeholders are context. Colouring
adds escape sequences and leaves every character of the block in its place.
-/

namespace FilterQuery.Terminal

/-! ## Commands -/

def closer? (c : Char) : Option Char :=
  if c = '"' then some '"' else if c = '<' then some '>' else none

/-- A word in front of other words, unless it is empty. -/
def consWord (word : Text) (words : List Text) : List Text :=
  if word.isEmpty then words else word :: words

/-- The word that goes on at the front of a command, a group being open that
`closer` closes, and the words after it. Every space outside a group is a word
of its own. -/
def splitWord : (closer : Option Char) → Text → Text × List Text
  | _, [] => ([], [])
  | some closer, c :: rest =>
      let (word, words) := splitWord (if c = closer then none else some closer) rest
      (c :: word, words)
  | none, c :: rest =>
      if c = ' ' then
        let (word, words) := splitWord none rest
        ([], [' '] :: consWord word words)
      else
        let (word, words) := splitWord (closer? c) rest
        (c :: word, words)

/-- The words of a command and the spaces between them. -/
def splitWords (command : Text) : List Text :=
  let (word, words) := splitWord none command
  consWord word words

/-- Whether a word is a quoted argument or a placeholder. -/
def isArgument (word : Text) : Bool := word.head? == some '"' || word.head? == some '<'

/-- A word of a command in its style; white space has none. -/
def colorWord (word : Text) : Text :=
  if word.allBlank then word
  else if isArgument word then Style.context.paint word
  else Style.literal.paint word

def colorCommand (command : Text) : Text := (splitWords command).flatMap colorWord

/-! ## Lines -/

/-- A line cut at its first two spaces in a row. -/
def splitDescription? : Text → Option (Text × Text)
  | [] => none
  | [_] => none
  | c :: d :: rest =>
      if c = ' ' ∧ d = ' ' then some ([], c :: d :: rest)
      else (splitDescription? (d :: rest)).map fun (command, description) =>
        (c :: command, description)

def descriptionStart? (line : Text) : Option Nat :=
  (splitDescription? line).map fun (command, _) => command.utf8Size

def colorLine (line : Text) : Text :=
  let indent := line.takeWhile isBlank
  let content := line.trimStart
  match splitDescription? content with
  | some (command, description) => indent ++ colorCommand command ++ description
  | none => if content.getLast? = some ':' then indent ++ Style.heading.paint content else line

/-- A block of examples, in colours if they are used. -/
def examples (colored : Bool) (text : Text) : Text :=
  if colored then Text.joined ['\n'] (text.lines.map colorLine) else text

end FilterQuery.Terminal
