import FilterQuery.Marker
import FilterQuery.Proofs.Pieces
import FilterQuery.Token
/-!
# How conditions are read

A value is written as one lexeme: a string as a quoted string, whatever stands
in it, and any other value as a word of letters, digits, points and minus signs.
A list is written as one word exactly if none of its strings has white space or
a parenthesis in it.
-/

namespace FilterQuery

open Text

/-! ## Plain values -/

/-- Whether a character is a letter, a digit, a point or a minus sign. -/
def isPlainChar (c : Char) : Bool := c.isAlphanum || c == '.' || c == '-'

/-- A text, not empty, of letters, digits, points and minus signs. -/
def IsPlain (text : Text) : Prop := text ≠ [] ∧ ∀ c ∈ text, isPlainChar c = true

instance : DecidablePred IsPlain := fun text =>
  decidable_of_iff (text ≠ [] ∧ text.all isPlainChar = true)
    (and_congr_right fun _ => List.all_eq_true)

theorem toNat_of_isPlainChar {c : Char} (h : isPlainChar c = true) :
    c.toNat = 45 ∨ c.toNat = 46 ∨ 48 ≤ c.toNat ∧ c.toNat ≤ 57 ∨ 65 ≤ c.toNat ∧ c.toNat ≤ 122 := by
  rw [isPlainChar, Bool.or_eq_true, Bool.or_eq_true, beq_iff_eq, beq_iff_eq] at h
  rcases h with (halphanum | rfl) | rfl
  · change (c.isUpper || c.isLower || c.isDigit) = true at halphanum
    rw [Bool.or_eq_true, Bool.or_eq_true] at halphanum
    rcases halphanum with (hupper | hlower) | hdigit
    · have hrange : 65 ≤ c.toNat ∧ c.toNat ≤ 90 := of_decide_eq_true hupper
      omega
    · have hrange : 97 ≤ c.toNat ∧ c.toNat ≤ 122 :=
        (Bool.and_eq_true_iff.mp hlower).imp of_decide_eq_true of_decide_eq_true
      omega
    · have hrange : 48 ≤ c.toNat ∧ c.toNat ≤ 57 :=
        (Bool.and_eq_true_iff.mp hdigit).imp of_decide_eq_true of_decide_eq_true
      omega
  · decide
  · decide

theorem isWordChar_of_isPlainChar {c : Char} (h : isPlainChar c = true) :
    isWordChar c = true := by
  have hcode := toNat_of_isPlainChar h
  have hblank : isBlank c = false := by
    simp [isBlank, blankRanges]
    omega
  refine isWordChar_of_not_blank hblank ?_
  rintro p rfl
  cases p <;> revert hcode <;> decide

theorem isPlainChar_of_isDigit {c : Char} (h : c.isDigit = true) : isPlainChar c = true := by
  simp [isPlainChar, Char.isAlphanum, h]

theorem Connective.not_isPlainChar_of_mem {j : Connective} {c : Char} (h : c ∈ j.literal) :
    isPlainChar c = false := by
  cases j <;> simp only [literal, List.mem_cons, List.not_mem_nil, or_false, or_self] at h <;>
    subst h <;> decide

theorem IsPlain.isBareword {text : Text} (h : IsPlain text) : IsBareword text where
  ne_nil := h.1
  isWordChar c hc := isWordChar_of_isPlainChar (h.2 c hc)
  no_quote hhead := by
    have hplain := h.2 '"' (List.mem_of_mem_head? hhead)
    revert hplain
    decide
  no_connective j hbegins := by
    obtain ⟨c, hc⟩ := List.exists_mem_of_ne_nil j.literal (by cases j <;> simp [Connective.literal])
    have hplain := h.2 c (hbegins.subset hc)
    rw [Connective.not_isPlainChar_of_mem hc] at hplain
    exact Bool.false_ne_true hplain

theorem isPlain_ofNat (n : Nat) : IsPlain (Text.ofNat n) := by
  refine ⟨Nat.toDigits_ne_nil, fun c hc => isPlainChar_of_isDigit ?_⟩
  exact Nat.isDigit_of_mem_toDigits (by decide) (by decide) hc

theorem isPlain_ofInt (n : Int) : IsPlain (Text.ofInt n) := by
  cases n with
  | ofNat n => exact isPlain_ofNat n
  | negSucc n =>
      refine ⟨by simp [Text.ofInt], List.forall_mem_cons.mpr ⟨by decide, ?_⟩⟩
      exact (isPlain_ofNat (n + 1)).2

theorem isPlain_textOfBool (b : Bool) : IsPlain (Scalar.textOfBool b) := by
  cases b <;> decide

/-- A number written without an exponent has digits and a point only. -/
theorem isPlain_writePositional {layout : Layout} (hpoint : layout.keepsPoint = false)
    {digits : Text} (hdigits : ∀ c ∈ digits, isPlainChar c = true) (power : Int) :
    IsPlain (layout.writePositional digits power) := by
  have hzeros : ∀ n, ∀ c ∈ List.replicate n '0', isPlainChar c = true := by
    intro n c hc
    rw [List.eq_of_mem_replicate hc]
    decide
  unfold Layout.writePositional
  split
  next =>
    refine ⟨by simp, fun c hc => ?_⟩
    simp only [List.cons_append, List.mem_cons, List.mem_append] at hc
    rcases hc with rfl | rfl | hc | hc
    · decide
    · decide
    · exact hzeros _ c hc
    · exact hdigits c hc
  next =>
    constructor
    · intro hnil
      have hlength := congrArg List.length hnil
      simp only [List.length_append, List.length_take, List.length_replicate,
        List.length_nil] at hlength
      omega
    · intro c hc
      simp only [List.mem_append] at hc
      rcases hc with (hc | hc) | hc
      · exact hdigits c (List.mem_of_mem_take hc)
      · exact hzeros _ c hc
      · split at hc
        next => simp [hpoint] at hc
        next =>
          rcases List.mem_cons.mp hc with rfl | hc
          · decide
          · exact hdigits c (List.mem_of_mem_drop hc)

theorem isPlain_writeScaled (value : Scaled) : IsPlain (Layout.query.writeScaled value) := by
  unfold Layout.writeScaled
  split
  next => exact ⟨by simp, by simp [Layout.query, isPlainChar]⟩
  next =>
    simp only [Layout.query, if_true]
    refine isPlain_writePositional rfl (fun c hc => isPlainChar_of_isDigit ?_) _
    have hmem := (List.dropWhile_suffix _).subset (List.mem_reverse.mp hc)
    exact Nat.isDigit_of_mem_toDigits (by decide) (by decide) (List.mem_reverse.mp hmem)

/-- Whatever a floating-point number is, it is written as a plain text. -/
theorem isPlain_textOfFloat (x : Float) : IsPlain (Scalar.textOfFloat x) := by
  unfold Scalar.textOfFloat Layout.write?
  cases magnitudeOf x with
  | mk negative magnitude =>
      cases magnitude with
      | nan => cases negative <;> decide
      | infinite => cases negative <;> decide
      | finite value =>
          have hvalue := isPlain_writeScaled value
          cases negative with
          | false => simpa using hvalue
          | true => exact ⟨by simp, List.forall_mem_cons.mpr ⟨by decide, hvalue.2⟩⟩

/-! ## Values -/

/-- The kind of the lexeme that a value is written as. -/
def Scalar.lexemeKind : Scalar → LexemeKind
  | .string _ => .quoted
  | _ => .word

theorem Scalar.lexemeKind_ne_paren (value : Scalar) (p : Paren) : value.lexemeKind ≠ .paren p := by
  cases value <;> simp [lexemeKind]

/-- The lexeme that a value is written as. -/
def Scalar.content (value : Scalar) : Content := (value.lexemeKind, value.render false)

theorem Scalar.isPlain_render {value : Scalar} (h : ∀ s, value ≠ .string s) :
    IsPlain (value.render false) := by
  cases value with
  | boolean b => exact isPlain_textOfBool b
  | integer n => exact isPlain_ofInt n.toInt
  | float x => exact isPlain_textOfFloat x
  | string s => exact absurd rfl (h s)

/-- A value is one lexeme. -/
theorem Scalar.isPiece_render (value : Scalar) :
    IsPiece (value.render false ++ [' ']) [value.content] := by
  cases value with
  | string s => exact isPiece_quote s
  | boolean b => exact (isPlain_textOfBool b).isBareword.isPiece
  | integer n => exact (isPlain_ofInt n.toInt).isBareword.isPiece
  | float x => exact (isPlain_textOfFloat x).isBareword.isPiece

/-! ## Conditions -/

theorem Operator.isBareword_literal (o : Operator) : IsBareword o.literal := by
  cases o <;> decide

theorem kind_eq_word_of_text_eq_literal {text : Text} {l : Lexeme} {o : Operator}
    (h : l ∈ lex text) (hliteral : l.text = o.literal) : l.kind = .word := by
  have hword : IsBareword l.content.2 := by
    rw [Lexeme.content, hliteral]
    exact o.isBareword_literal
  have hcontent : l.content ∈ contents text := List.mem_map_of_mem h
  exact kind_eq_word_of_isBareword hcontent hword

/-- A property name: a word that does not begin with the filter marker. -/
structure IsName (property : Text) : Prop extends IsBareword property where
  no_marker : ¬ marker <+: property

instance : DecidablePred IsName := fun property =>
  decidable_of_iff (IsBareword property ∧ ¬ marker <+: property)
    ⟨fun ⟨hword, hmarker⟩ => ⟨hword, hmarker⟩, fun h => ⟨h.toIsBareword, h.no_marker⟩⟩

/-- The lexemes of a condition on a value. -/
def conditionContents (property : Text) (operator : Operator) (value : Scalar) : List Content :=
  [(.word, property), (.word, operator.literal), value.content]

/-- The lexemes of a property, an operator and a word in a row. -/
theorem IsPiece.of_condition {property text : Text} {content : Content} (operator : Operator)
    (hproperty : IsBareword property) (hvalue : IsPiece (text ++ [' ']) [content]) :
    IsPiece (property ++ ' ' :: operator.literal ++ ' ' :: text ++ [' '])
      [(.word, property), (.word, operator.literal), content] := by
  have hpiece := (hproperty.isPiece.append operator.isBareword_literal.isPiece).append hvalue
  simpa using hpiece

theorem isPiece_renderCondition {property : Text} (hproperty : IsBareword property)
    (operator : Operator) (value : Scalar) :
    IsPiece (renderCondition property operator value ++ [' '])
      (conditionContents property operator value) :=
  .of_condition operator hproperty value.isPiece_render

/-! ## Lists -/

/-- The values of a list in brackets, as they stand in a query. -/
def listLiteral (values : List Scalar) : Text := '[' :: renderList values ++ [']']

/-- No string among the values has white space or a parenthesis in it. -/
def HasWordStrings (values : List Scalar) : Prop :=
  ∀ s, .string s ∈ values → ∀ c ∈ s, isWordChar c = true

instance : DecidablePred HasWordStrings := fun values =>
  decidable_of_iff
    (∀ value ∈ values, (match value with | .string s => s.all isWordChar | _ => true) = true)
    ⟨fun h s hs c hc => List.all_eq_true.mp (h (.string s) hs) c hc, fun h value hvalue => by
      cases value with
      | string s => exact List.all_eq_true.mpr (h s hvalue)
      | boolean | integer | float => rfl⟩

theorem Text.mem_joined_of_mem {separator part : Text} {parts : List Text} {c : Char}
    (hpart : part ∈ parts) (hc : c ∈ part) : c ∈ joined separator parts := by
  fun_induction joined separator parts with
  | case1 => simp at hpart
  | case2 only =>
      rw [List.mem_singleton] at hpart
      rwa [← hpart]
  | case3 first next rest ih =>
      rcases List.mem_cons.mp hpart with rfl | hpart
      · simp [hc]
      · exact List.mem_append_right _ (ih hpart)

theorem Text.mem_joined {separator : Text} {parts : List Text} {c : Char}
    (h : c ∈ joined separator parts) : c ∈ separator ∨ ∃ part ∈ parts, c ∈ part := by
  fun_induction joined separator parts with
  | case1 => simp at h
  | case2 only => exact .inr ⟨only, List.mem_singleton_self only, h⟩
  | case3 first next rest ih =>
      rw [List.mem_append, List.mem_append] at h
      rcases h with (h | h) | h
      · exact .inr ⟨first, List.mem_cons_self, h⟩
      · exact .inl h
      · rcases ih h with h | ⟨part, hpart, hc⟩
        · exact .inl h
        · exact .inr ⟨part, List.mem_cons_of_mem _ hpart, hc⟩

theorem mem_escape {text : Text} {c : Char} (h : c ∈ escape text) : c = '\\' ∨ c ∈ text := by
  induction text with
  | nil => simp [escape] at h
  | cons d text ih =>
      unfold escape at h
      split at h <;> simp only [List.mem_cons] at h ⊢ <;> tauto

theorem mem_escape_of_mem {text : Text} {c : Char} (h : c ∈ text) : c ∈ escape text := by
  induction text with
  | nil => simp at h
  | cons d text ih =>
      unfold escape
      split <;> simp only [List.mem_cons] at h ⊢ <;> tauto

theorem isWordChar_quote_iff {text : Text} :
    (∀ c ∈ quote text, isWordChar c = true) ↔ ∀ c ∈ text, isWordChar c = true := by
  constructor
  · intro h c hc
    exact h c (List.mem_cons_of_mem _ (List.mem_append_left _ (mem_escape_of_mem hc)))
  · intro h c hc
    rw [quote, List.cons_append, List.mem_cons, List.mem_append, List.mem_singleton] at hc
    rcases hc with rfl | hc | rfl
    · decide
    · rcases mem_escape hc with rfl | hc
      · decide
      · exact h c hc
    · decide

/-- A list in brackets has white space or a parenthesis in it exactly if one of
its strings has. -/
theorem isWordChar_listLiteral_iff {values : List Scalar} :
    (∀ c ∈ listLiteral values, isWordChar c = true) ↔ HasWordStrings values := by
  constructor
  · intro h s hs
    rw [← isWordChar_quote_iff]
    -- Quoting keeps every character of `s`, and so does the list.
    intro c hc
    have hpart : quote s ∈ values.map (Scalar.render false) := List.mem_map_of_mem hs
    refine h c (List.mem_cons_of_mem _ (List.mem_append_left _ ?_))
    exact mem_joined_of_mem hpart hc
  · intro h c hc
    rw [listLiteral, List.cons_append, List.mem_cons, List.mem_append, List.mem_singleton] at hc
    rcases hc with rfl | hc | rfl
    · decide
    · rcases mem_joined hc with hc | ⟨part, hpart, hc⟩
      · rw [List.mem_singleton.mp hc]
        decide
      · obtain ⟨value, hvalue, rfl⟩ := List.mem_map.mp hpart
        by_cases hstring : ∃ s, value = .string s
        · obtain ⟨s, rfl⟩ := hstring
          exact isWordChar_quote_iff.mpr (h s hvalue) c hc
        · have hplain : IsPlain (value.render false) :=
            Scalar.isPlain_render fun s hs => hstring ⟨s, hs⟩
          exact hplain.isBareword.isWordChar c hc
    · decide

theorem isBareword_listLiteral {values : List Scalar} (h : HasWordStrings values) :
    IsBareword (listLiteral values) where
  ne_nil := by simp [listLiteral]
  isWordChar := isWordChar_listLiteral_iff.mpr h
  no_quote := by simp [listLiteral]
  no_connective := by rintro (_ | _) <;> simp [Connective.literal, listLiteral]

/-- The lexemes of a condition on a list. -/
def listConditionContents (property : Text) (operator : ListOperator) (values : List Scalar) :
    List Content :=
  [(.word, property), (.word, operator.literal), (.word, listLiteral values)]

theorem isPiece_renderListCondition {property : Text} (hproperty : IsBareword property)
    (operator : ListOperator) {values : List Scalar} (hvalues : HasWordStrings values) :
    IsPiece (renderListCondition property operator values ++ [' '])
      (listConditionContents property operator values) := by
  have hpiece := IsPiece.of_condition operator.toOperator hproperty
    (isBareword_listLiteral hvalues).isPiece
  simpa [renderListCondition, listLiteral, listConditionContents, ListOperator.literal] using hpiece

end FilterQuery
