import FilterQuery.Text
/-!
# Patterns

A pattern is a regular expression. Patterns are not run here; what matters is
whether one could be. A pattern may not be nested too deep, and what it means
has to be known without the tables of Unicode: in Unicode mode, which is the
usual one, it has no shorthand for a set of characters, no edge of a word, and
no letter whose case is ignored. With Unicode mode off, what a pattern matches
still has to be text, so it has nothing that could match a part of a character.
-/

namespace FilterQuery

/-! ## Modes -/

/-- A mode that a letter in a pattern turns on or off. -/
inductive PatternFlag where
  | ignoreCase
  | multiLine
  | dotMatchesAll
  | swapGreed
  | unicode
  | carriageReturns
  | verbose
deriving DecidableEq, Repr

namespace PatternFlag

def ofLetter? (c : Char) : Option PatternFlag :=
  if c = 'i' then some .ignoreCase
  else if c = 'm' then some .multiLine
  else if c = 's' then some .dotMatchesAll
  else if c = 'U' then some .swapGreed
  else if c = 'u' then some .unicode
  else if c = 'R' then some .carriageReturns
  else if c = 'x' then some .verbose
  else none

end PatternFlag

/-- The modes that are set at some place, and whether they are turned on. -/
abbrev ModeChange := List (PatternFlag × Bool)

def ModeChange.state (change : ModeChange) (flag : PatternFlag) (before : Bool) : Bool :=
  (change.lookup flag).getD before

/-- The modes that the meaning of a pattern depends on. -/
structure PatternModes where
  ignoreCase : Bool := false
  unicode : Bool := true
deriving DecidableEq, Repr

def PatternModes.apply (modes : PatternModes) (change : ModeChange) : PatternModes :=
  ⟨change.state .ignoreCase modes.ignoreCase, change.state .unicode modes.unicode⟩

/-! ## Patterns -/

/-- A character that stands for itself, and whether it is written as a byte, in
two hexadecimal digits. -/
structure PatternChar where
  char : Char
  isByte : Bool := false
deriving DecidableEq, Repr

/-- A set of characters, as it is written between brackets. -/
inductive CharSet where
  | nothing
  | literal (c : PatternChar)
  | range (first last : PatternChar)
  /-- A set of ASCII characters with a name, such as all letters. -/
  | named (negated : Bool)
  /-- The digits, the blanks, or the characters of words. -/
  | shorthand (negated : Bool)
  | union (sets : List CharSet)
  | combined (left right : CharSet)
  | bracketed (negated : Bool) (set : CharSet)

/-- A regular expression. -/
inductive Pattern where
  | nothing
  | modes (change : ModeChange)
  | literal (c : PatternChar)
  | anyChar
  /-- The start or the end of a line or of the text. -/
  | lineEdge
  /-- A place where a word starts or ends, or where none does. -/
  | wordEdge
  | shorthand (negated : Bool)
  | charSet (negated : Bool) (set : CharSet)
  | repeated (pattern : Pattern)
  | group (change : ModeChange) (pattern : Pattern)
  | sequence (patterns : List Pattern)
  | choice (patterns : List Pattern)

def CharSet.ofList : List CharSet → CharSet
  | [] => .nothing
  | [set] => set
  | sets => .union sets

namespace Pattern

def ofSequence : List Pattern → Pattern
  | [] => .nothing
  | [pattern] => pattern
  | patterns => .sequence patterns

def ofChoice : List Pattern → Pattern
  | [] => .nothing
  | [pattern] => pattern
  | patterns => .choice patterns

end Pattern

/-! ## Depth -/

mutual

def CharSet.depth : CharSet → Nat
  | .union sets => charSetsDepth sets + 1
  | .combined left right => max left.depth right.depth + 1
  | .bracketed _ set => set.depth + 1
  | _ => 0

def charSetsDepth : List CharSet → Nat
  | [] => 0
  | set :: rest => max set.depth (charSetsDepth rest)

end

mutual

def Pattern.depth : Pattern → Nat
  | .charSet _ set => set.depth + 1
  | .repeated pattern => pattern.depth + 1
  | .group _ pattern => pattern.depth + 1
  | .sequence patterns => patternsDepth patterns + 1
  | .choice patterns => patternsDepth patterns + 1
  | _ => 0

def patternsDepth : List Pattern → Nat
  | [] => 0
  | pattern :: rest => max pattern.depth (patternsDepth rest)

end

def Pattern.depthLimit : Nat := 250

/-! ## Meaning without tables -/

namespace PatternModes

/-- Whether a character that stands for itself has a meaning. -/
def knows (modes : PatternModes) (c : PatternChar) : Bool :=
  if modes.unicode then !modes.ignoreCase else !c.isByte || c.char.toNat ≤ 0x7F

def knowsMember (modes : PatternModes) (c : PatternChar) : Bool :=
  if modes.unicode then !modes.ignoreCase else c.char.toNat ≤ 0x7F

def knowsShorthand (modes : PatternModes) (negated : Bool) : Bool := !modes.unicode && !negated

end PatternModes

mutual

def CharSet.isKnown (modes : PatternModes) : CharSet → Bool
  | .nothing => true
  | .literal c => modes.knowsMember c
  | .range first last => modes.knowsMember first && modes.knowsMember last
  | .named negated => if modes.unicode then !modes.ignoreCase else !negated
  | .shorthand negated => modes.knowsShorthand negated
  | .union sets => charSetsKnown modes sets
  | .combined left right => left.isKnown modes && right.isKnown modes
  | .bracketed negated set => set.isKnown modes && (modes.unicode || !negated)

def charSetsKnown (modes : PatternModes) : List CharSet → Bool
  | [] => true
  | set :: rest => set.isKnown modes && charSetsKnown modes rest

end

mutual

/-- The modes after a pattern, if it has a meaning. A change of modes lasts to
the end of the group around it, in all of its choices. -/
def Pattern.modesAfter? (modes : PatternModes) : Pattern → Option PatternModes
  | .nothing => some modes
  | .modes change => some (modes.apply change)
  | .literal c => if modes.knows c then some modes else none
  | .anyChar => if modes.unicode then some modes else none
  | .lineEdge => some modes
  | .wordEdge => if modes.unicode then none else some modes
  | .shorthand negated => if modes.knowsShorthand negated then some modes else none
  | .charSet negated set =>
      if (CharSet.bracketed negated set).isKnown modes then some modes else none
  | .repeated pattern => pattern.modesAfter? modes
  | .group change pattern => (pattern.modesAfter? (modes.apply change)).map fun _ => modes
  | .sequence patterns => modesAfterAll? modes patterns
  | .choice patterns => modesAfterAll? modes patterns

/-- The modes after some patterns, if they have a meaning. -/
def modesAfterAll? (modes : PatternModes) : List Pattern → Option PatternModes
  | [] => some modes
  | pattern :: rest =>
      match pattern.modesAfter? modes with
      | some modes => modesAfterAll? modes rest
      | none => none

end

def Pattern.isUsable (pattern : Pattern) : Bool :=
  pattern.depth ≤ Pattern.depthLimit && (pattern.modesAfter? {}).isSome

end FilterQuery
