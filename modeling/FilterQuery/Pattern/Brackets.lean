import FilterQuery.Pattern.Escape
/-!
# Sets in patterns

A set of characters stands between brackets: characters, ranges of them, and
other sets, all of which are united, and the signs of an intersection or of a
difference between such unions. A set has at least one member or sign: a
closing bracket in first place is a character, and so are hyphens.
-/

namespace FilterQuery.Pattern

def setNames : List Text :=
  ["alnum", "alpha", "ascii", "blank", "cntrl", "digit", "graph", "lower", "print", "punct",
    "space", "upper", "word", "xdigit"].map String.toList

/-- The set with a name, between colons, at the front of a text that follows an
opening bracket, and what follows. -/
def readNamed? (text : Text) : Option (CharSet × Text) := do
  let text ← Text.stripStart? [':'] text
  let (negated, text) := match text with
    | '^' :: rest => (true, rest)
    | text => (false, text)
  let rest ← Text.stripStart? [':', ']'] (text.dropWhile (· != ':'))
  if setNames.contains (text.takeWhile (· != ':')) then some (.named negated, rest) else none

/-! ## Members -/

/-- The character, or the shorthand for a set, at the front of a text, and what
follows. -/
def readMember? (verbose : Bool) : Text → Option (CharSet × Text)
  | [] => none
  | '\\' :: rest =>
      match readEscape? verbose rest with
      | some (.literal c, rest) => some (.literal c, rest)
      | some (.shorthand negated, rest) => some (.shorthand negated, rest)
      | _ => none
  | c :: rest => some (.literal ⟨c, false⟩, rest)

/-- The character that is looked at to tell whether a hyphen makes a range. In
verbose mode white space is passed over, and so is the sign that begins a
comment, but not the comment. -/
def afterHyphen? (verbose : Bool) (text : Text) : Option Char :=
  let ahead := text.dropWhile isBlank
  let ahead := if ahead.head? = some '#' then (ahead.drop 1).dropWhile isBlank else ahead
  if verbose then ahead.head? <|> text.head? else text.head?

def range? : CharSet → CharSet → Option CharSet
  | .literal first, .literal last =>
      if first.char ≤ last.char then some (.range first last) else none
  | _, _ => none

/-- The member or the range at the front of a text, and what follows. -/
def readRange? (verbose : Bool) (text : Text) : Option (CharSet × Text) := do
  let (first, rest) ← readMember? verbose text
  match skip verbose rest with
  | '-' :: rest =>
      if [some ']', some '-'].contains (afterHyphen? verbose rest) then some (first, '-' :: rest)
      else
        let (last, rest) ← readMember? verbose (skip verbose rest)
        some (← range? first last, rest)
  | rest => some (first, rest)

/-! ## Sets -/

/-- A set that is open: the left side of the sign it holds, the members after
that, the last one first, and whether hyphens still are characters. -/
structure OpenSet where
  negated : Bool
  left : Option CharSet := none
  members : List CharSet := []
  isFresh : Bool := true

namespace OpenSet

/-- The set that follows an opening bracket, and what follows. -/
def start (verbose : Bool) (text : Text) : OpenSet × Text :=
  match skip verbose text with
  | '^' :: rest => ({ negated := true }, rest)
  | rest => ({ negated := false }, rest)

def content (set : OpenSet) : CharSet :=
  let members := CharSet.ofList set.members.reverse
  match set.left with
  | none => members
  | some left => .combined left members

/-- The set with one more member, hyphens being characters no longer. -/
def add (set : OpenSet) (member : CharSet) : OpenSet :=
  { set with members := member :: set.members, isFresh := false }

/-- The set with a hyphen, more of which may follow. -/
def addHyphen (set : OpenSet) : OpenSet :=
  { set.add (.literal ⟨'-', false⟩) with isFresh := true }

def cut (set : OpenSet) : OpenSet :=
  { negated := set.negated, left := some set.content, isFresh := false }

end OpenSet

/-- Whether a sign for an intersection or a difference begins a text. -/
def isSetSign : Text → Bool
  | '&' :: '&' :: _ | '-' :: '-' :: _ | '~' :: '~' :: _ => true
  | _ => false

/-- The set whose inside, and that of the sets around it, is read up to the
front of a text, and what follows. The first argument bounds the recursion. -/
def readSet? (verbose : Bool) :
    Nat → (inner : OpenSet) → (outer : List OpenSet) → Text → Option (Pattern × Text)
  | 0, _, _, _ => none
  | fuel + 1, inner, outer, text =>
      match skip verbose text with
      | [] => none
      | c :: rest =>
          if inner.isFresh && c == '-' then readSet? verbose fuel inner.addHyphen outer rest
          else if inner.isFresh && c == ']' && inner.members.isEmpty then
            readSet? verbose fuel (inner.add (.literal ⟨c, false⟩)) outer rest
          else if c = '[' then
            match readNamed? rest with
            | some (set, rest) => readSet? verbose fuel (inner.add set) outer rest
            | none =>
                let (opened, rest) := OpenSet.start verbose rest
                readSet? verbose fuel opened (inner :: outer) rest
          else if c = ']' then
            match outer with
            | [] => some (.charSet inner.negated inner.content, rest)
            | next :: outer =>
                let set := CharSet.bracketed inner.negated inner.content
                readSet? verbose fuel (next.add set) outer rest
          else if isSetSign (c :: rest) then readSet? verbose fuel inner.cut outer (rest.drop 1)
          else
            match readRange? verbose (c :: rest) with
            | some (set, rest) => readSet? verbose fuel (inner.add set) outer rest
            | none => none

/-- The set that follows an opening bracket, and what follows. -/
def readBrackets? (verbose : Bool) (text : Text) : Option (Pattern × Text) :=
  let (opened, rest) := OpenSet.start verbose text
  readSet? verbose (text.length + 1) opened [] rest

end FilterQuery.Pattern
