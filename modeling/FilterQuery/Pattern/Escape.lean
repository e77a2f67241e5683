import FilterQuery.Number.Digit
import FilterQuery.Pattern
import FilterQuery.Text.Blank
/-!
# Escapes in patterns

A backslash gives the character after it another meaning. Signs stand for
themselves, some letters for control characters, for sets or for places, and
the letters `x`, `u` and `U` are followed by the digits of a code point. In
verbose mode white space between the parts of a pattern does not count, and
neither does a comment, from a number sign to the end of its line.
-/

namespace FilterQuery.Pattern

/-- The text without the white space and the comments at its front, a comment
being open if `comment`. -/
def skipComments : (comment : Bool) → Text → Text
  | _, [] => []
  | true, c :: rest => skipComments (c != '\n') rest
  | false, c :: rest =>
      if isBlank c then skipComments false rest
      else if c = '#' then skipComments true rest
      else c :: rest

/-- The text from the next part of the pattern on. -/
def skip (verbose : Bool) (text : Text) : Text :=
  if verbose then skipComments false text else text

/-- The number written with exactly `count` hexadecimal digits at the front of
a text, after those that make up `value`, and what follows. -/
def readHex? (verbose : Bool) : (count value : Nat) → Text → Option (Nat × Text)
  | 0, value, text => some (value, text)
  | count + 1, value, text =>
      match skip verbose text with
      | [] => none
      | c :: rest =>
          match digitValue? c with
          | some digit => readHex? verbose count (value * 16 + digit) rest
          | none => none

/-- The character given by its code point in `count` digits, and what
follows. -/
def readCode? (verbose : Bool) (count : Nat) (text : Text) : Option (Pattern × Text) := do
  let (code, rest) ← readHex? verbose count 0 text
  let char ← charOfCode? code
  some (.literal ⟨char, count = 2⟩, rest)

def controlOf? (c : Char) : Option Char :=
  if c = 'a' then some '\x07'
  else if c = 'f' then some '\x0c'
  else if c = 't' then some '\t'
  else if c = 'n' then some '\n'
  else if c = 'r' then some '\r'
  else if c = 'v' then some '\x0b'
  else none

/-- What one letter or sign after a backslash stands for. -/
def simpleEscape? (c : Char) : Option Pattern :=
  if ['d', 's', 'w'].contains c then some (.shorthand false)
  else if ['D', 'S', 'W'].contains c then some (.shorthand true)
  else if ['A', 'z'].contains c then some .lineEdge
  else if ['b', 'B', '<', '>'].contains c then some .wordEdge
  else
    match controlOf? c with
    | some control => some (.literal ⟨control, false⟩)
    | none => if c.toNat ≤ 0x7F ∧ !c.isAlphanum then some (.literal ⟨c, false⟩) else none

/-- What the text after a backslash stands for, and what follows. -/
def readEscape? (verbose : Bool) : Text → Option (Pattern × Text)
  | [] => none
  | c :: rest =>
      if c = 'x' then readCode? verbose 2 rest
      else if c = 'u' then readCode? verbose 4 rest
      else if c = 'U' then readCode? verbose 8 rest
      else (simpleEscape? c).map (·, rest)

end FilterQuery.Pattern
