import FilterQuery.Text
/-!
# Colours on a terminal

Text is coloured by an escape sequence before it and another one after it.
Whether colours are used at all is decided by two variables and, if neither of
them settles it, by whether the output is a terminal.
-/

namespace FilterQuery.Terminal

/-- What decides whether colours are used. -/
structure Settings where
  noColor : Option Text := none
  color : Option Text := none
  isTerminal : Bool := false
deriving DecidableEq, Repr

def isOn (value : Option Text) : Bool := value == some ['1']

/-- Whether colours are used. Forbidding them is stronger than asking for them. -/
def Settings.colored (settings : Settings) : Bool :=
  !isOn settings.noColor && (isOn settings.color || settings.isTerminal)

/-- What a piece of text is to the reader. -/
inductive Style where
  | heading
  | literal
  | context
deriving DecidableEq, Repr

namespace Style

def code : Style → Nat
  | .heading => 74
  | .literal => 250
  | .context => 245

def opening (style : Style) : Text :=
  '\x1b' :: "[38;5;".toList ++ Text.ofNat style.code ++ ['m']

def closing : Text := '\x1b' :: "[0m".toList

def paint (style : Style) (text : Text) : Text := style.opening ++ text ++ closing

/-- A text in a style if colours are used. -/
def paintIf (style : Style) (colored : Bool) (text : Text) : Text :=
  if colored then style.paint text else text

end Style

/-- A text without its escape sequences, each of them reaching from an escape
character to the next `m`; `inside` tells whether one is open. -/
def eraseEscapes : (inside : Bool) → Text → Text
  | _, [] => []
  | true, c :: rest => eraseEscapes (c != 'm') rest
  | false, c :: rest => if c = '\x1b' then eraseEscapes true rest else c :: eraseEscapes false rest

end FilterQuery.Terminal
