import FilterQuery.Text
/-!
# Quoted text

A string value stands between double quotes, with a backslash before every
backslash and every double quote in it. Reading undoes this; it also accepts a
backslash before any other character. The main statement is that what is
written is read back.
-/

namespace FilterQuery.Text

/-- The inside of a quoted string: a backslash before each backslash and each
double quote. -/
def escape : Text → Text
  | [] => []
  | c :: rest => if c = '\\' ∨ c = '"' then '\\' :: c :: escape rest else c :: escape rest

/-- The text between double quotes, escaped. -/
def quote (text : Text) : Text := '"' :: escape text ++ ['"']

/-- The text that the inside of a quoted string stands for, `escaped` telling
whether a backslash has just been read. A bare double quote, or a backslash
with nothing after it, has no reading. -/
def unescape? : (escaped : Bool) → Text → Option Text
  | false, [] => some []
  | true, [] => none
  | true, c :: rest => (unescape? false rest).map (c :: ·)
  | false, c :: rest =>
      if c = '\\' then unescape? true rest
      else if c = '"' then none
      else (unescape? false rest).map (c :: ·)

/-- The text that a quoted string stands for; nothing if it is not one
complete quoted string. -/
def unquote? (literal : Text) : Option Text := do
  let opened ← stripStart? ['"'] literal
  let inside ← stripEnd? ['"'] opened
  unescape? false inside

theorem unescape?_escape (text : Text) : unescape? false (escape text) = some text := by
  induction text with
  | nil => rfl
  | cons c text ih =>
      by_cases h : c = '\\' ∨ c = '"'
      · simp [escape, h, unescape?, ih]
      · obtain ⟨hslash, hquote⟩ := not_or.mp h
        simp [escape, hslash, hquote, unescape?, ih]

/-- What is quoted is read back. -/
theorem unquote?_quote (text : Text) : unquote? (quote text) = some text := by
  have hopened : stripStart? ['"'] (quote text) = some (escape text ++ ['"']) :=
    stripStart?_eq_some_iff.mpr rfl
  have hinside : stripEnd? ['"'] (escape text ++ ['"']) = some (escape text) :=
    stripEnd?_eq_some_iff.mpr rfl
  simp [unquote?, hopened, hinside, unescape?_escape]

end FilterQuery.Text
