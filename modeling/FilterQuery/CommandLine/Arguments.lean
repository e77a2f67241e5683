import FilterQuery.Text
/-!
# Arguments of a command

A command takes flags, options that have a value, and perhaps one positional
argument. A flag or an option is written with two hyphens and its name, or with
one hyphen and its letter; letters may follow each other. The value of an option
follows an equals sign, or its letter directly, or is the next argument. After
two lone hyphens every argument is positional.

The value read last is looked at when the next flag, option or positional
argument comes, or at the end. So an argument that is not known is reported
before a fault of the value in front of it, and that fault before a request for
help behind it.
-/

namespace FilterQuery.CommandLine

/-- What takes the place of running a command. -/
inductive Refusal where
  /-- There is no such flag, option or further positional argument. -/
  | unknownArgument
  /-- A value is missing or is none of those allowed. -/
  | invalidValue
  /-- There is no such command. -/
  | unknownCommand
  /-- A flag or an option is given twice. -/
  | repeatedArgument
  /-- The positional argument is missing. -/
  | missingArgument
  /-- A flag is given a value. -/
  | unexpectedValue
  /-- Help is asked for. -/
  | help
  /-- Nothing at all is given where something must be. -/
  | nothingGiven
  /-- The version is asked for. -/
  | version
deriving DecidableEq, Repr

/-! ## What a command takes -/

/-- What flags do: they are noted, or something is shown at once. -/
inductive FlagEffect where
  | note
  | showInstead (refusal : Refusal)
deriving DecidableEq, Repr

/-- A flag with its name and its letters. -/
structure Flag where
  name : Text
  letters : List Char := []
  effect : FlagEffect := .note

/-- An option with its name, its letter and the values it allows. -/
structure ValueOption where
  name : Text
  letter : Option Char := none
  allows : Text → Bool

/-- A positional argument and the values it allows. -/
structure Positional where
  required : Bool
  allows : Text → Bool

/-- What a command takes. -/
structure Grammar where
  flags : List Flag := []
  options : List ValueOption := []
  positional : Option Positional := none
  wantsArguments : Bool := false

namespace Grammar

def flagNamed? (g : Grammar) (name : Text) : Option Flag := g.flags.find? fun f => f.name == name

def optionNamed? (g : Grammar) (name : Text) : Option ValueOption :=
  g.options.find? fun o => o.name == name

def flagLettered? (g : Grammar) (letter : Char) : Option Flag :=
  g.flags.find? fun f => f.letters.contains letter

def optionLettered? (g : Grammar) (letter : Char) : Option ValueOption :=
  g.options.find? fun o => o.letter == some letter

end Grammar

/-! ## What has been given -/

/-- The arguments given: the names of flags, the values of options by name, and
the positional argument. -/
structure Given where
  flags : List Text := []
  options : List (Text × Text) := []
  positional : Option Text := none
deriving DecidableEq, Repr

namespace Given

def isNothing (given : Given) : Bool :=
  given.flags.isEmpty && given.options.isEmpty && given.positional.isNone

def has (given : Given) (flag : Text) : Bool := given.flags.contains flag

def value? (given : Given) (option : Text) : Option Text := given.options.lookup option

end Given

/-- A value that has not been looked at yet; an option may still wait for its
value. -/
inductive Pending where
  | option (asked : ValueOption) (value : Option Text)
  | positional (allows : Text → Bool) (value : Text)

/-- What has been read of the arguments. -/
structure Progress where
  given : Given := {}
  pending : Option Pending := none
  filled : Bool := false

namespace Progress

def takeValue (p : Progress) (asked : ValueOption) (value : Text) : Except Refusal Progress :=
  if (p.given.value? asked.name).isSome then .error .repeatedArgument
  else if asked.allows value then
    .ok { p with
      given := { p.given with options := p.given.options ++ [(asked.name, value)] }
      pending := none }
  else .error .invalidValue

def settle (p : Progress) : Except Refusal Progress :=
  match p.pending with
  | none => .ok p
  | some (.option _ none) => .error .invalidValue
  | some (.option asked (some value)) => p.takeValue asked value
  | some (.positional allows value) =>
      if allows value then
        .ok { p with given := { p.given with positional := some value }, pending := none }
      else .error .invalidValue

def takeFlag (p : Progress) (flag : Flag) : Except Refusal Progress := do
  let p ← p.settle
  match flag.effect with
  | .showInstead refusal => .error refusal
  | .note =>
      if p.given.has flag.name then .error .repeatedArgument
      else .ok { p with given := { p.given with flags := p.given.flags ++ [flag.name] } }

/-- An option read, perhaps together with its value. -/
def takeOption (p : Progress) (asked : ValueOption) (value : Option Text) :
    Except Refusal Progress := do
  let p ← p.settle
  match value with
  | some value => p.takeValue asked value
  | none => .ok { p with pending := some (.option asked none) }

/-- A word read that is neither a flag nor an option: the value that an option
waits for, or a positional argument. -/
def takeWord (p : Progress) (positional : Option Positional) (trailing : Bool) (word : Text) :
    Except Refusal Progress :=
  match p.pending, trailing with
  | some (.option asked none), false => .ok { p with pending := some (.option asked (some word)) }
  | _, _ =>
      match positional, p.filled with
      | some positional, false => do
          let p ← p.settle
          .ok { p with pending := some (.positional positional.allows word), filled := true }
      | _, _ => .error .unknownArgument

end Progress

/-! ## Reading arguments -/

/-- The form of an argument. -/
inductive Form where
  | separator
  /-- Two hyphens, a name, and perhaps a value after an equals sign. -/
  | named (name : Text) (value : Option Text)
  | lettered (letters : Text)
  | word
deriving DecidableEq, Repr

/-- The form of an argument. A lone hyphen is a word. -/
def formOf : Text → Form
  | ['-', '-'] => .separator
  | '-' :: '-' :: rest =>
      match rest.dropWhile (· != '=') with
      | [] => .named rest none
      | _ :: value => .named (rest.takeWhile (· != '=')) (some value)
  | '-' :: c :: rest => .lettered (c :: rest)
  | _ => .word

def takeNamed (g : Grammar) (p : Progress) (name : Text) (value : Option Text) :
    Except Refusal Progress :=
  match g.optionNamed? name, g.flagNamed? name with
  | some asked, _ => p.takeOption asked value
  | none, some flag => if value.isSome then .error .unexpectedValue else p.takeFlag flag
  | none, none => .error .unknownArgument

/-- The value written directly after the letter of an option, an equals sign
between them not being part of it. -/
def attachedValue : Text → Option Text
  | [] => none
  | '=' :: value => some value
  | value => some value

/-- The flags read that letters stand for, up to the first option. -/
def takeLetters (g : Grammar) (p : Progress) : Text → Except Refusal Progress
  | [] => .ok p
  | letter :: rest =>
      match g.optionLettered? letter, g.flagLettered? letter with
      | some asked, _ => p.takeOption asked (attachedValue rest)
      | none, some flag => do takeLetters g (← p.takeFlag flag) rest
      | none, none => .error .unknownArgument

/-- The arguments read, `trailing` telling whether all are positional. -/
def takeAll (g : Grammar) (p : Progress) : (trailing : Bool) → List Text → Except Refusal Progress
  | _, [] => p.settle
  | true, word :: rest => do takeAll g (← p.takeWord g.positional true word) true rest
  | false, argument :: rest =>
      match formOf argument with
      | .separator => takeAll g p true rest
      | .named name value => do takeAll g (← takeNamed g p name value) false rest
      | .lettered letters => do takeAll g (← takeLetters g p letters) false rest
      | .word => do takeAll g (← p.takeWord g.positional false argument) false rest

/-- What is given to a command, if it is what the command takes. -/
def Grammar.read (g : Grammar) (arguments : List Text) : Except Refusal Given := do
  let given := (← takeAll g {} false arguments).given
  if g.wantsArguments && given.isNothing then .error .nothingGiven
  else if g.positional.any Positional.required && given.positional.isNone then
    .error .missingArgument
  else .ok given

end FilterQuery.CommandLine
