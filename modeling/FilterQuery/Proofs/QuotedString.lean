import FilterQuery.Proofs.Lexing
import FilterQuery.Text.Quoted
import Mathlib.Data.List.Chain
/-!
# Quoted strings

Where a quoted string ends is found in two ways. In a query it ends at the first
double quote that no backslash takes with it; unquoting takes off the outer
quotes first and then looks whether another one stands bare between them. They
agree on what a quoted string is where no backslash stands before the end of a
line: in a query no quoted string goes on after that, but unquoting takes any
character behind a backslash as it is.
-/

namespace FilterQuery

open Text

/-- No backslash is followed at once by a character that ends a line. -/
def EscapesNoLineEnd (text : Text) : Prop :=
  text.IsChain fun c d => c = '\\' → isLineEnd d = false

instance : DecidablePred EscapesNoLineEnd := fun text =>
  inferInstanceAs (Decidable (text.IsChain fun c d => c = '\\' → isLineEnd d = false))

namespace EscapesNoLineEnd

variable {c : Char} {left right text : Text}

theorem tail (h : EscapesNoLineEnd (c :: text)) : EscapesNoLineEnd text := List.IsChain.tail h

theorem right_of_append (h : EscapesNoLineEnd (left ++ right)) : EscapesNoLineEnd right :=
  List.IsChain.right_of_append h

theorem left_of_append (h : EscapesNoLineEnd (left ++ right)) : EscapesNoLineEnd left :=
  List.IsChain.left_of_append h

theorem isLineEnd_head? (h : EscapesNoLineEnd ('\\' :: text)) :
    ∀ d ∈ text.head?, isLineEnd d = false :=
  fun _ hd => List.IsChain.rel_head? h hd rfl

end EscapesNoLineEnd

/-! ## Two ways to the closing quote -/

/-- The text may follow what has been read, `escaped` telling whether that ends
with a backslash that takes a character with it: no backslash takes the end of a
line. -/
structure Continues (escaped : Bool) (text : Text) : Prop where
  escapes : EscapesNoLineEnd text
  isLineEnd_head? : escaped = true → ∀ c ∈ text.head?, isLineEnd c = false

namespace Continues

variable {escaped : Bool} {c : Char} {text : Text}

theorem start (h : EscapesNoLineEnd text) : Continues false text := ⟨h, nofun⟩

theorem isLineEnd_eq (h : Continues escaped (c :: text)) (hescaped : escaped = true) :
    isLineEnd c = false :=
  h.isLineEnd_head? hescaped c rfl

theorem next (h : Continues escaped (c :: text)) : Continues (!escaped && c == '\\') text where
  escapes := h.escapes.tail
  isLineEnd_head? hslash := by
    obtain rfl := beq_iff_eq.mp (Bool.and_eq_true_iff.mp hslash).2
    exact h.escapes.isLineEnd_head?

end Continues

theorem isSome_unescape?_cons {escaped : Bool} {c : Char} {rest : Text} :
    (unescape? escaped (c :: rest)).isSome = true ↔
      (escaped = true ∨ c ≠ '"') ∧ (unescape? (!escaped && c == '\\') rest).isSome = true := by
  cases escaped with
  | true => simp [unescape?]
  | false =>
      by_cases hslash : c = '\\'
      · simp [unescape?, hslash]
      · have hbeq : (c == '\\') = false := beq_eq_false_iff_ne.mpr hslash
        by_cases hquote : c = '"' <;> simp [unescape?, hslash, hquote, hbeq]

/-- What stands before a quote at the end of a text is closed by that quote
exactly if it can be unescaped: both go on from one character to the next in the
same way. -/
theorem closeQuote?_append_quote_iff {escaped : Bool} {inside : Text}
    (h : Continues escaped inside) :
    closeQuote? escaped (inside ++ ['"']) = some (inside ++ ['"'], []) ↔
      (unescape? escaped inside).isSome = true := by
  induction inside generalizing escaped with
  | nil => cases escaped <;> simp [closeQuote?, unescape?, isLineEnd]
  | cons c inside ih =>
      rw [List.cons_append, closeQuote?_cons_eq_some_iff, isSome_unescape?_cons, ← ih h.next]
      constructor
      · rintro (⟨-, -, hclosed, -⟩ | ⟨-, hquote, inner, heq, hinner⟩)
        · simp at hclosed
        · obtain rfl := (List.cons.inj heq).2
          exact ⟨hquote, hinner⟩
      · rintro ⟨hquote, hinner⟩
        exact .inr ⟨h.isLineEnd_eq, hquote, _, rfl, hinner⟩

/-- A text is one quoted string of a query exactly if it begins with a double
quote and closes at its end. -/
theorem contents_eq_quoted_iff {text : Text} :
    contents text = [(.quoted, text)] ↔
      ∃ rest, text = '"' :: rest ∧ closeQuote? false rest = some (rest, []) := by
  constructor
  · intro h
    have hlexical : IsLexical (.quoted, text) :=
      isLexical_of_mem_contents (by rw [h]; exact List.mem_singleton_self _)
    cases hlexical with
    | @quoted _ inside _ hclose =>
        have hself := closeQuote?_inside_append hclose []
        rw [List.append_nil] at hself
        exact ⟨inside, rfl, hself⟩
  · rintro ⟨rest, rfl, hclose⟩
    rw [contents_cons (by decide), ReadsTo.eq (.quoted hclose), contents_nil]

theorem isSome_unquote?_iff {text : Text} :
    (unquote? text).isSome = true ↔
      ∃ inside, text = '"' :: (inside ++ ['"']) ∧ (unescape? false inside).isSome = true := by
  simp only [unquote?, Option.bind_eq_bind, Option.isSome_bind, Option.any_eq_true,
    stripStart?_eq_some_iff, stripEnd?_eq_some_iff]
  constructor
  · rintro ⟨opened, rfl, inside, rfl, hinside⟩
    exact ⟨inside, rfl, hinside⟩
  · rintro ⟨inside, rfl, hinside⟩
    exact ⟨inside ++ ['"'], rfl, inside, rfl, hinside⟩

/-- Where no backslash takes the end of a line with it, a text is one quoted
string of a query exactly if it can be unquoted. -/
theorem contents_eq_quoted_iff_unquote? {literal : Text} (h : EscapesNoLineEnd literal) :
    contents literal = [(.quoted, literal)] ↔ (unquote? literal).isSome = true := by
  rw [contents_eq_quoted_iff, isSome_unquote?_iff]
  constructor
  · rintro ⟨rest, rfl, hclose⟩
    -- A string that is closed ends with its quote, so the quote can be split off.
    obtain ⟨inside, rfl⟩ := List.getLast?_eq_some_iff.mp (closeQuote?_getLast? hclose)
    have hinside : Continues false inside := .start h.tail.left_of_append
    exact ⟨inside, rfl, (closeQuote?_append_quote_iff hinside).mp hclose⟩
  · rintro ⟨inside, rfl, hinside⟩
    have hcontinues : Continues false inside := .start h.tail.left_of_append
    exact ⟨inside ++ ['"'], rfl, (closeQuote?_append_quote_iff hcontinues).mpr hinside⟩

/-- An escaped quote, an escaped backslash and a parenthesis do not end the
string; a quote behind an escaped backslash does. -/
theorem contents_eq_quoted_escapes :
    let closed := "\"a\\\"\\\\ (b\"".toList
    let broken := "\"a\\\\\"b\"".toList
    EscapesNoLineEnd closed ∧ contents closed = [(.quoted, closed)] ∧
      EscapesNoLineEnd broken ∧ contents broken ≠ [(.quoted, broken)] := by
  intro closed broken
  have hclosed : EscapesNoLineEnd closed := by decide
  have hbroken : EscapesNoLineEnd broken := by decide
  refine ⟨hclosed, (contents_eq_quoted_iff_unquote? hclosed).mpr (by decide), hbroken, ?_⟩
  exact mt (contents_eq_quoted_iff_unquote? hbroken).mp (by decide)

/-- A backslash may not take the end of a line with it in a query. -/
example : (unquote? "\"\\\n\"".toList).isSome = true ∧
    contents "\"\\\n\"".toList ≠ [(.quoted, "\"\\\n\"".toList)] := by
  decide +kernel

end FilterQuery
