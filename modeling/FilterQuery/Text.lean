/-!
# Query text

Queries, property names and string values are kept as lists of characters:
every law of this library speaks about characters, and a list is the form in
which those laws are proved. Positions in a query are counted in bytes of its
UTF-8 form, so the size of a text is the sum of the sizes of its characters.
-/

namespace FilterQuery

/-- A piece of text, as the list of its characters. -/
abbrev Text := List Char

def charOfCode? (code : Nat) : Option Char :=
  if code.isValidChar then some (Char.ofNat code) else none

namespace Text

def utf8Size : Text → Nat
  | [] => 0
  | c :: rest => c.utf8Size + utf8Size rest

@[simp] theorem utf8Size_nil : utf8Size [] = 0 := rfl

@[simp] theorem utf8Size_cons (c : Char) (rest : Text) :
    utf8Size (c :: rest) = c.utf8Size + utf8Size rest := rfl

@[simp] theorem utf8Size_append (left right : Text) :
    utf8Size (left ++ right) = utf8Size left + utf8Size right := by
  induction left with
  | nil => simp
  | cons c left ih => simp [ih, Nat.add_assoc]

/-- What follows a leading `mark`; nothing if the text does not start with it. -/
def stripStart? : (mark text : Text) → Option Text
  | [], text => some text
  | _ :: _, [] => none
  | m :: mark, c :: text => if m = c then stripStart? mark text else none

theorem stripStart?_eq_some_iff {mark text rest : Text} :
    stripStart? mark text = some rest ↔ text = mark ++ rest := by
  induction mark generalizing text with
  | nil => simp [stripStart?, eq_comm]
  | cons m mark ih =>
      cases text with
      | nil => simp [stripStart?]
      | cons c text =>
          by_cases h : m = c
          · simp [stripStart?, h, ih]
          · simp [stripStart?, h, Ne.symm h]

/-- What precedes a trailing `mark`; nothing if the text does not end with it. -/
def stripEnd? (mark text : Text) : Option Text :=
  (stripStart? mark.reverse text.reverse).map List.reverse

theorem stripEnd?_eq_some_iff {mark text rest : Text} :
    stripEnd? mark text = some rest ↔ text = rest ++ mark := by
  simp only [stripEnd?, Option.map_eq_some_iff, stripStart?_eq_some_iff]
  constructor
  · rintro ⟨tser, h, rfl⟩
    simpa using congrArg List.reverse h
  · rintro rfl
    exact ⟨rest.reverse, by simp, by simp⟩

/-- The text from a byte of its UTF-8 form on; nothing if that byte does not
begin a character. -/
def dropBytes? : Nat → Text → Option Text
  | 0, text => some text
  | _ + 1, [] => none
  | n + 1, c :: rest =>
      if c.utf8Size ≤ n + 1 then dropBytes? (n + 1 - c.utf8Size) rest else none

/-- The first bytes of the UTF-8 form of a text, as text; nothing if they do not
end with a character. -/
def takeBytes? : Nat → Text → Option Text
  | 0, _ => some []
  | _ + 1, [] => none
  | n + 1, c :: rest =>
      if c.utf8Size ≤ n + 1 then (takeBytes? (n + 1 - c.utf8Size) rest).map (c :: ·) else none

/-- The text between two bytes of the UTF-8 form of a text; nothing if one of
them does not begin a character. -/
def slice? (text : Text) (start stop : Nat) : Option Text :=
  text.dropBytes? start >>= takeBytes? (stop - start)

def ofNat (n : Nat) : Text := Nat.toDigits 10 n

/-- An integer in decimal digits, a minus sign before a negative one. -/
def ofInt : Int → Text
  | .ofNat n => ofNat n
  | .negSucc n => '-' :: ofNat (n + 1)

/-- The text filled up with blanks on the right to at least `width` characters. -/
def padRight (width : Nat) (text : Text) : Text :=
  text ++ List.replicate (width - text.length) ' '

/-- The text filled up with blanks on the left to at least `width` characters. -/
def padLeft (width : Nat) (text : Text) : Text :=
  List.replicate (width - text.length) ' ' ++ text

/-- The parts one after the other, `separator` between any two of them. -/
def joined (separator : Text) : List Text → Text
  | [] => []
  | [part] => part
  | part :: next :: rest => part ++ separator ++ joined separator (next :: rest)

/-- The pieces between the line feeds: one more than there are line feeds. -/
def splitLines : Text → List Text
  | [] => [[]]
  | c :: rest =>
      if c = '\n' then [] :: splitLines rest
      else match splitLines rest with
        | [] => [[c]]
        | line :: lines => (c :: line) :: lines

/-- A line without the carriage return that may end it. -/
def dropCarriageReturn (line : Text) : Text :=
  (stripEnd? ['\r'] line).getD line

/-- The lines of a text: a line feed ends a line, with a carriage return before
it or not, and what follows the last line feed is a line unless it is empty.
The last line keeps a carriage return that no line feed follows. -/
def lines (text : Text) : List Text :=
  let pieces := splitLines text
  let ended := pieces.dropLast.map dropCarriageReturn
  match pieces.getLast? with
  | none | some [] => ended
  | some last => ended ++ [last]

end Text

end FilterQuery
