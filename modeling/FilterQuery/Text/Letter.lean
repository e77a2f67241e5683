import FilterQuery.Text.LetterTable
import FilterQuery.Text.Range
/-!
# Letters and digits

Names may be made of the letters and numbers of all scripts.
-/

namespace FilterQuery

def isLetter (c : Char) : Bool := isWithin alphabeticRanges c

def isNumeral (c : Char) : Bool := isWithin numericRanges c

/-- Whether a character is a letter or a number of any script. -/
def isLetterOrNumeral (c : Char) : Bool := isLetter c || isNumeral c

end FilterQuery
