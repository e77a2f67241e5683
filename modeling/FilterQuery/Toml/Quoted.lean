import FilterQuery.Number.Digit
/-!
# Quoted text in TOML

Text stands between double quotes, with escapes, or between single quotes, as
it is. Three quotes in place of one begin and end a long form, which may hold
line feeds and single quotes of its kind; the first line feed after the opening
quotes is left out. In the long form with escapes a backslash at the end of a
line takes away that line end and all white space after it.
-/

namespace FilterQuery.Toml

def isSpace (c : Char) : Bool := c == ' ' || c == '\t'

/-- Whether a character belongs to the end of a line. -/
def isNewline (c : Char) : Bool := c == '\n' || c == '\r'

/-- Whether a character is a control character other than a tab. -/
def isControl (c : Char) : Bool := (c.toNat < 0x20 && c != '\t') || c.toNat == 0x7F

/-- Whether a character may stand in quoted text as it is. -/
def isQuotable (long : Bool) (c : Char) : Bool := !isControl c || (long && isNewline c)

def dropFirstNewline : Text → Text
  | '\n' :: rest => rest
  | '\r' :: '\n' :: rest => rest
  | rest => rest

/-- The quotes that belong to the text, and what follows, where the text ends
with quotes `q`. The long form ends with three of them, and one or two more
before these are text. -/
def closing? (q : Char) (long : Bool) (text : Text) : Option (Text × Text) :=
  let run := (text.takeWhile (· == q)).length
  if long then
    let inside := min (run - 3) 2
    if run < 3 then none else some (List.replicate inside q, text.drop (inside + 3))
  else if run = 0 then none
  else some ([], text.drop 1)

/-! ## Text as it is -/

/-- The text up to the closing single quotes, and what follows. -/
def readLiteral? (long : Bool) : Text → Option (Text × Text)
  | [] => none
  | c :: rest =>
      match closing? '\'' long (c :: rest) with
      | some ending => some ending
      | none =>
          if isQuotable long c then
            (readLiteral? long rest).map fun (text, after) => (c :: text, after)
          else none

/-! ## Text with escapes -/

/-- Where the reader stands: among plain characters, after a backslash, in an
escape with `digits` more digits to come after those that make up `value`, or
after a backslash at the end of a line, which `ended` tells to be over. -/
inductive EscapeState where
  | plain
  | escaped
  | hex (digits value : Nat)
  | folded (ended : Bool)
deriving DecidableEq, Repr

/-- The character that a backslash and a letter stand for. -/
def simpleEscape? (c : Char) : Option Char :=
  if c = '"' ∨ c = '\\' then some c
  else if c = 'b' then some '\x08'
  else if c = 't' then some '\t'
  else if c = 'n' then some '\n'
  else if c = 'f' then some '\x0c'
  else if c = 'r' then some '\r'
  else if c = 'e' then some '\x1b'
  else none

/-- The state after a blank character that a backslash takes away, `ended`
telling whether the line is over. -/
def afterFold? (ended : Bool) : Text → Option EscapeState
  | [] => none
  | c :: _ =>
      if isSpace c || isNewline c then some (.folded ended)
      else if ended then some .plain
      else none

/-- The text up to the closing double quotes, and what follows. -/
def readBasic? (long : Bool) : EscapeState → Text → Option (Text × Text)
  | _, [] => none
  | .plain, c :: rest =>
      match closing? '"' long (c :: rest) with
      | some ending => some ending
      | none =>
          if c = '\\' then readBasic? long .escaped rest
          else if isQuotable long c then
            (readBasic? long .plain rest).map fun (text, after) => (c :: text, after)
          else none
  | .escaped, c :: rest =>
      if c = 'x' then readBasic? long (.hex 1 0) rest
      else if c = 'u' then readBasic? long (.hex 3 0) rest
      else if c = 'U' then readBasic? long (.hex 7 0) rest
      else if long && (isSpace c || isNewline c) then
        match afterFold? (isNewline c) rest with
        | some state => readBasic? long state rest
        | none => none
      else
        match simpleEscape? c with
        | some plain =>
            (readBasic? long .plain rest).map fun (text, after) => (plain :: text, after)
        | none => none
  | .hex digits value, c :: rest =>
      match digitValue? c with
      | none => none
      | some digit =>
          let value := value * 16 + digit
          match digits with
          | 0 =>
              match charOfCode? value with
              | some plain =>
                  (readBasic? long .plain rest).map fun (text, after) => (plain :: text, after)
              | none => none
          | digits + 1 => readBasic? long (.hex digits value) rest
  | .folded ended, c :: rest =>
      match afterFold? (ended || isNewline c) rest with
      | some state => readBasic? long state rest
      | none => none

/-! ## Both -/

/-- The quoted text on one line at the front of a text, and what follows. -/
def readShort? : Text → Option (Text × Text)
  | '"' :: rest => readBasic? false .plain rest
  | '\'' :: rest => readLiteral? false rest
  | _ => none

/-- The quoted text of either form at the front of a text, and what follows. -/
def readQuoted? : Text → Option (Text × Text)
  | '"' :: '"' :: '"' :: rest => readBasic? true .plain (dropFirstNewline rest)
  | '\'' :: '\'' :: '\'' :: rest => readLiteral? true (dropFirstNewline rest)
  | text => readShort? text

end FilterQuery.Toml
