import FilterQuery.Pattern.Brackets
import FilterQuery.Text.Letter
/-!
# Reading patterns

A pattern is read in two steps: into pieces, from left to right, and from those
into a tree. A pattern stands in a field of a directive, where it can hold no
closing brace; what needs one, as a repetition with a count does, is refused.
-/

namespace FilterQuery.Pattern

/-! ## Pieces -/

/-- A piece of a pattern. -/
inductive Piece where
  | opening (change : ModeChange)
  | closing
  | bar
  | repetition
  | part (pattern : Pattern)

/-- The modes that the letters at the front of a text set, up to a colon or a
closing parenthesis, `set` being those set before, and `on` telling whether no
minus sign has come yet; then that sign, and what follows. -/
def readModes? (set : ModeChange) (on : Bool) : Text → Option (ModeChange × Char × Text)
  | [] => none
  | c :: rest =>
      if c = ':' ∨ c = ')' then some (set, c, rest)
      else if c = '-' then
        if !on || rest.head? = some ':' || rest.head? = some ')' then none
        else readModes? set false rest
      else
        match PatternFlag.ofLetter? c with
        | some flag =>
            if (set.lookup flag).isSome then none else readModes? ((flag, on) :: set) on rest
        | none => none

/-- Whether a text can be the name of a group. -/
def isGroupName : Text → Bool
  | [] => false
  | c :: rest =>
      (c == '_' || isLetter c) &&
        rest.all fun c => ['_', '.', '[', ']'].contains c || isLetterOrNumeral c

/-- The name of a group up to the sign that closes it, and what follows. -/
def readGroupName? (text : Text) : Option (Text × Text) :=
  let name := text.takeWhile (· != '>')
  match text.dropWhile (· != '>') with
  | _ :: rest => if isGroupName name then some (name, rest) else none
  | [] => none

/-- What an opening parenthesis begins: a group, with a name or without one, or
a change of modes. -/
inductive Opened where
  | group (change : ModeChange)
  | named (name : Text)
  | modes (change : ModeChange)

/-- What the text after an opening parenthesis begins, and what follows. -/
def readOpened? : Text → Option (Opened × Text)
  | '?' :: 'P' :: '<' :: rest => (readGroupName? rest).map fun (name, rest) => (.named name, rest)
  | '?' :: '<' :: rest => (readGroupName? rest).map fun (name, rest) => (.named name, rest)
  | '?' :: rest => do
      let (change, sign, rest) ← readModes? [] true rest
      if sign = ':' then some (.group change, rest)
      else if change.isEmpty then none
      else some (.modes change, rest)
  | rest => some (.group [], rest)

/-- The pieces of a text in verbose mode or not, `outer` telling whether that
mode was on outside of each open group, and `names` being the names of the
groups so far. The first argument bounds the recursion. -/
def readPieces? :
    Nat → (verbose : Bool) → (outer : List Bool) → (names : List Text) → Text →
      Option (List Piece)
  | 0, _, _, _, _ => none
  | fuel + 1, verbose, outer, names, text =>
      let read (piece : Piece) (rest : Text) :=
        (readPieces? fuel verbose outer names rest).map (piece :: ·)
      match skip verbose text with
      | [] => some []
      | c :: rest =>
          if c = '(' then
            match readOpened? (skip verbose rest) with
            | some (.group change, rest) =>
                let inside := change.state .verbose verbose
                (readPieces? fuel inside (verbose :: outer) names rest).map (.opening change :: ·)
            | some (.named name, rest) =>
                if names.contains name then none
                else
                  (readPieces? fuel verbose (verbose :: outer) (name :: names) rest).map
                    (.opening [] :: ·)
            | some (.modes change, rest) =>
                let verbose := change.state .verbose verbose
                (readPieces? fuel verbose outer names rest).map (.part (.modes change) :: ·)
            | none => none
          else if c = ')' then
            match outer with
            | [] => none
            | verbose :: outer =>
                (readPieces? fuel verbose outer names rest).map (.closing :: ·)
          else if c = '|' then read .bar rest
          else if c = '?' ∨ c = '*' ∨ c = '+' then
            read .repetition (if rest.head? = some '?' then rest.drop 1 else rest)
          else if c = '\x7b' then none
          else if c = '.' then read (.part .anyChar) rest
          else if c = '^' ∨ c = '$' then read (.part .lineEdge) rest
          else if c = '[' then
            match readBrackets? verbose rest with
            | some (set, rest) => read (.part set) rest
            | none => none
          else if c = '\\' then
            match readEscape? verbose rest with
            | some (pattern, rest) => read (.part pattern) rest
            | none => none
          else read (.part (.literal ⟨c, false⟩)) rest

/-! ## Trees -/

/-- A group that is open: the modes it sets, its choices that are over, and the
parts of the one under way, the last ones first. -/
structure OpenGroup where
  change : ModeChange := []
  choices : List Pattern := []
  parts : List Pattern := []

namespace OpenGroup

def add (group : OpenGroup) (part : Pattern) : OpenGroup :=
  { group with parts := part :: group.parts }

def cut (group : OpenGroup) : OpenGroup :=
  { group with choices := ofSequence group.parts.reverse :: group.choices, parts := [] }

def content (group : OpenGroup) : Pattern := ofChoice group.cut.choices.reverse

/-- The group with its last part repeated; nothing if there is none that can
be. -/
def repeatLast? (group : OpenGroup) : Option OpenGroup :=
  match group.parts with
  | [] | .nothing :: _ | .modes _ :: _ => none
  | part :: parts => some { group with parts := .repeated part :: parts }

end OpenGroup

/-- The pattern that some pieces make, after those that make up the open
groups. -/
def assemble? (inner : OpenGroup) (outer : List OpenGroup) : List Piece → Option Pattern
  | [] => if outer.isEmpty then some inner.content else none
  | .opening change :: rest => assemble? { change } (inner :: outer) rest
  | .closing :: rest =>
      match outer with
      | [] => none
      | next :: outer => assemble? (next.add (.group inner.change inner.content)) outer rest
  | .bar :: rest => assemble? inner.cut outer rest
  | .repetition :: rest =>
      match inner.repeatLast? with
      | some inner => assemble? inner outer rest
      | none => none
  | .part pattern :: rest => assemble? (inner.add pattern) outer rest

def read? (text : Text) : Option Pattern :=
  readPieces? (text.length + 1) false [] [] text >>= assemble? {} []

end FilterQuery.Pattern
