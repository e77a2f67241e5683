import FilterQuery.Text
/-!
# Blank characters

White space is the Unicode property `White_Space`: 25 characters in ten
ranges. The zero-width space, the byte order mark and the ASCII separators
U+001C to U+001F are not in it. Trimming removes such characters from the ends
of a text and nothing else.
-/

namespace FilterQuery

def blankRanges : List (Nat × Nat) :=
  [(0x9, 0xD), (0x20, 0x20), (0x85, 0x85), (0xA0, 0xA0), (0x1680, 0x1680),
    (0x2000, 0x200A), (0x2028, 0x2029), (0x202F, 0x202F), (0x205F, 0x205F),
    (0x3000, 0x3000)]

def isBlank (c : Char) : Bool :=
  blankRanges.any fun range => range.1 ≤ c.toNat && c.toNat ≤ range.2

example : (blankRanges.map fun range => range.2 - range.1 + 1).sum = 25 := rfl

/-- Whether a character ends a line: line feed, carriage return, line
separator or paragraph separator. -/
def isLineEnd (c : Char) : Bool :=
  c == '\n' || c == '\r' || c == '\u2028' || c == '\u2029'

namespace Text

def trimStart (text : Text) : Text := text.dropWhile isBlank

def trimEnd (text : Text) : Text := (text.reverse.dropWhile isBlank).reverse

def trim (text : Text) : Text := trimEnd (trimStart text)

def allBlank (text : Text) : Bool := text.all isBlank

theorem length_trimStart_le (text : Text) : (trimStart text).length ≤ text.length := by
  simpa [trimStart] using (List.dropWhile_suffix isBlank).length_le

/-- Leading white space and what follows it make up the text. -/
theorem takeWhile_append_trimStart (text : Text) :
    text.takeWhile isBlank ++ trimStart text = text :=
  List.takeWhile_append_dropWhile

end Text

end FilterQuery
