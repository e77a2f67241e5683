import FilterQuery.Text.CaseTable
import FilterQuery.Text.Range
/-!
# Lower case

Lower-casing maps each character by the table of letter case. Two characters
need more than the table: U+0130 becomes an `i` with a combining dot, and a
capital sigma becomes the final form when it ends a word, that is when a letter
comes before it and none after it, characters that carry no case of their own
being passed over.
-/

namespace FilterQuery

/-- The lower-case form of one character, by the table alone. -/
def lowercaseChar (c : Char) : Char :=
  let n := c.toNat
  match lowercaseRanges.find? fun (first, last, step, _) =>
      first ≤ n && n ≤ last && (n - first) % step == 0 with
  | some (_, _, _, shift) => Char.ofNat (n + shift).toNat
  | none => c

/-- Whether the nearest character that is not passed over has a case. -/
def meetsCased (text : Text) : Bool :=
  match text.dropWhile fun c => isWithin caseIgnorableRanges c with
  | [] => false
  | c :: _ => isWithin casedRanges c

/-- The lower-case form of `c` between the characters `before`, nearest first,
and `after`. -/
def lowercaseIn (before : Text) (c : Char) (after : Text) : Text :=
  if c = '\u0130' then ['i', '\u0307']
  else if c = 'Σ' then [if meetsCased before && !meetsCased after then 'ς' else 'σ']
  else [lowercaseChar c]

namespace Text

/-- Lower-casing with the characters already passed at hand, nearest first. -/
def lowercaseAfter (before : Text) : Text → Text
  | [] => []
  | c :: after => lowercaseIn before c after ++ lowercaseAfter (c :: before) after

def lowercase (text : Text) : Text := lowercaseAfter [] text

def eqIgnoreAsciiCase (left right : Text) : Bool :=
  left.map Char.toLower == right.map Char.toLower

end Text

end FilterQuery
