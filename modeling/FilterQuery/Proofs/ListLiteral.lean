import FilterQuery.Proofs.Rendering
/-!
# Lists as they are written

Two lists of strings, integers and booleans are written alike only if they are
the same list. A comma may stand in a string, but a quoted string ends at its
own closing quote whatever stands in it, and no other value has a comma in it;
so each value can be told from what follows, and what follows is the rest of the
list.
-/

namespace FilterQuery

open Text

/-! ## Where a value ends -/

theorem quote_injective : Function.Injective quote := by
  intro left right h
  have hread := unquote?_quote left
  rw [h, unquote?_quote] at hread
  exact (Option.some.inj hread).symm

/-- A quoted string can be told from what follows it. -/
theorem quote_append_inj {first second left right : Text}
    (h : quote first ++ left = quote second ++ right) : first = second ∧ left = right := by
  rw [quote_append, quote_append] at h
  have hread := readLexeme_quote first left
  rw [(List.cons.inj h).2, readLexeme_quote] at hread
  obtain ⟨-, hquoted, hbehind⟩ := Reading.mk.inj hread
  exact ⟨quote_injective hquoted.symm, hbehind.symm⟩

/-- So can a plain text, if what follows it begins with another character. -/
theorem IsPlain.append_inj {first second left right : Text} (hfirst : IsPlain first)
    (hsecond : IsPlain second) (hleft : ∀ c ∈ left.head?, isPlainChar c = false)
    (hright : ∀ c ∈ right.head?, isPlainChar c = false) (h : first ++ left = second ++ right) :
    first = second ∧ left = right := by
  obtain ⟨hfront, hbehind⟩ := span_append_of_stop hfirst.2 hleft
  obtain ⟨htake, hdrop⟩ := span_append_of_stop hsecond.2 hright
  rw [h] at hfront hbehind
  exact ⟨hfront.symm.trans htake, hbehind.symm.trans hdrop⟩

theorem quote_append_ne_of_isPlain {text : Text} (h : IsPlain text) (string left right : Text) :
    quote string ++ left ≠ text ++ right := by
  obtain ⟨c, rest, rfl⟩ := List.exists_cons_of_ne_nil h.1
  intro heq
  have hplain := h.2 c List.mem_cons_self
  rw [← (List.cons.inj heq).1] at hplain
  exact absurd hplain (by decide)

/-! ## Integers and booleans -/

theorem Text.ofNat_injective : Function.Injective Text.ofNat := by
  intro m n h
  have hdigits : Nat.toDigits 10 m = Nat.toDigits 10 n := h
  rw [← @Nat.ofDigitChars_ten_toDigits m, hdigits, Nat.ofDigitChars_ten_toDigits]

theorem Text.eq_minus_or_isDigit_of_mem_ofInt {n : Int} {c : Char} (h : c ∈ Text.ofInt n) :
    c = '-' ∨ c.isDigit = true := by
  have hdigit : ∀ m : Nat, c ∈ Text.ofNat m → c.isDigit = true :=
    fun m hc => Nat.isDigit_of_mem_toDigits (by decide) (by decide) hc
  cases n with
  | ofNat n => exact .inr (hdigit n h)
  | negSucc n => exact (List.mem_cons.mp h).imp_right (hdigit (n + 1))

theorem Text.ofNat_ne_minus_cons (n : Nat) (rest : Text) : Text.ofNat n ≠ '-' :: rest := by
  intro h
  have hminus : '-' ∈ Nat.toDigits 10 n := by
    change '-' ∈ Text.ofNat n
    rw [h]
    exact List.mem_cons_self
  exact absurd (Nat.isDigit_of_mem_toDigits (by decide) (by decide) hminus) (by decide)

theorem Text.ofInt_injective : Function.Injective Text.ofInt := by
  intro m n h
  cases m with
  | ofNat m =>
      cases n with
      | ofNat n => exact congrArg Int.ofNat (Text.ofNat_injective h)
      | negSucc n => exact absurd h (Text.ofNat_ne_minus_cons m _)
  | negSucc m =>
      cases n with
      | ofNat n => exact absurd h.symm (Text.ofNat_ne_minus_cons n _)
      | negSucc n =>
          have hsucc := Text.ofNat_injective (List.cons.inj h).2
          rw [Nat.succ.inj hsucc]

theorem Scalar.textOfBool_ne_ofInt (b : Bool) (n : Int) : textOfBool b ≠ Text.ofInt n := by
  intro h
  have hletter : 'e' ∈ textOfBool b := by cases b <;> decide
  rw [h] at hletter
  rcases Text.eq_minus_or_isDigit_of_mem_ofInt hletter with hminus | hdigit
  · exact absurd hminus (by decide)
  · exact absurd hdigit (by decide)

theorem Scalar.textOfBool_injective : Function.Injective textOfBool := by
  rintro (_ | _) (_ | _) h
  · rfl
  · exact absurd h (by decide)
  · exact absurd h (by decide)
  · rfl

/-! ## Values -/

namespace Scalar

/-- Values that are neither strings nor floating-point numbers are the same if
their texts are. -/
theorem eq_of_render_eq {first second : Scalar} (hfirst : ∀ x, first ≠ .float x)
    (hsecond : ∀ x, second ≠ .float x) (hfirstBare : ∀ s, first ≠ .string s)
    (hsecondBare : ∀ s, second ≠ .string s)
    (h : first.render false = second.render false) : first = second := by
  cases first with
  | float x => exact absurd rfl (hfirst x)
  | string s => exact absurd rfl (hfirstBare s)
  | boolean a =>
      cases second with
      | float x => exact absurd rfl (hsecond x)
      | string s => exact absurd rfl (hsecondBare s)
      | boolean b => rw [textOfBool_injective h]
      | integer n => exact absurd h (textOfBool_ne_ofInt a n.toInt)
  | integer m =>
      cases second with
      | float x => exact absurd rfl (hsecond x)
      | string s => exact absurd rfl (hsecondBare s)
      | boolean b => exact absurd h.symm (textOfBool_ne_ofInt b m.toInt)
      | integer n => rw [Int64.toInt_inj.mp (Text.ofInt_injective h)]

theorem render_ne_nil (value : Scalar) : value.render false ≠ [] := by
  by_cases hstring : ∃ s, value = .string s
  · obtain ⟨s, rfl⟩ := hstring
    exact List.cons_ne_nil _ _
  · exact (isPlain_render (not_exists.mp hstring)).1

/-- A value that is not a floating-point number can be told from what follows
it, if that begins with no character of a number or a boolean. -/
theorem render_append_inj {first second : Scalar} {left right : Text}
    (hfirst : ∀ x, first ≠ .float x) (hsecond : ∀ x, second ≠ .float x)
    (hleft : ∀ c ∈ left.head?, isPlainChar c = false)
    (hright : ∀ c ∈ right.head?, isPlainChar c = false)
    (h : first.render false ++ left = second.render false ++ right) :
    first = second ∧ left = right := by
  by_cases hstring : ∃ s, first = .string s
  · obtain ⟨s, rfl⟩ := hstring
    by_cases hother : ∃ t, second = .string t
    · obtain ⟨t, rfl⟩ := hother
      obtain ⟨rfl, rfl⟩ := quote_append_inj h
      exact ⟨rfl, rfl⟩
    · have hplain := isPlain_render (not_exists.mp hother)
      exact absurd h (quote_append_ne_of_isPlain hplain s left right)
  · have hplain := isPlain_render (not_exists.mp hstring)
    by_cases hother : ∃ t, second = .string t
    · obtain ⟨t, rfl⟩ := hother
      exact absurd h.symm (quote_append_ne_of_isPlain hplain t right left)
    · obtain ⟨hrender, hbehind⟩ :=
        hplain.append_inj (isPlain_render (not_exists.mp hother)) hleft hright h
      exact ⟨eq_of_render_eq hfirst hsecond (not_exists.mp hstring) (not_exists.mp hother)
        hrender, hbehind⟩

end Scalar

/-! ## Lists -/

/-- What is written of a list behind the value before it. -/
def renderRest : List Scalar → Text
  | [] => []
  | value :: values => ',' :: renderList (value :: values)

theorem renderList_cons (value : Scalar) (values : List Scalar) :
    renderList (value :: values) = value.render false ++ renderRest values := by
  cases values <;> simp [renderList, renderRest, joined]

theorem isPlainChar_head?_renderRest (values : List Scalar) :
    ∀ c ∈ (renderRest values).head?, isPlainChar c = false := by
  cases values with
  | nil => simp [renderRest]
  | cons value values =>
      rintro c hc
      obtain rfl := Option.some.inj hc
      decide

theorem renderList_eq_of_renderRest_eq {first second : List Scalar}
    (h : renderRest first = renderRest second) : renderList first = renderList second := by
  cases first <;> cases second <;> simp_all [renderRest]

/-- Lists without floating-point numbers are written alike only if they are the
same. The induction is along the one list; the values of the other are told from
what follows them one after the other. -/
theorem renderList_eq_iff {first second : List Scalar} (hfirst : ∀ x, .float x ∉ first)
    (hsecond : ∀ x, .float x ∉ second) :
    renderList first = renderList second ↔ first = second := by
  refine ⟨fun h => ?_, congrArg renderList⟩
  induction first generalizing second with
  | nil =>
      cases second with
      | nil => rfl
      | cons value second =>
          rw [renderList_cons] at h
          exact absurd (List.append_eq_nil_iff.mp h.symm).1 value.render_ne_nil
  | cons value first ih =>
      cases second with
      | nil =>
          rw [renderList_cons] at h
          exact absurd (List.append_eq_nil_iff.mp h).1 value.render_ne_nil
      | cons other second =>
          rw [renderList_cons, renderList_cons] at h
          simp only [List.mem_cons, not_or] at hfirst hsecond
          obtain ⟨rfl, hrest⟩ := Scalar.render_append_inj (fun x => Ne.symm (hfirst x).1)
            (fun x => Ne.symm (hsecond x).1) (isPlainChar_head?_renderRest first)
            (isPlainChar_head?_renderRest second) h
          rw [ih (fun x => (hfirst x).2) (fun x => (hsecond x).2)
            (renderList_eq_of_renderRest_eq hrest)]

/-- A string that looks like two strings, and one that looks like a boolean. -/
theorem renderList_ne_lookalikes :
    let strings : List Scalar := [.string "a\",\"b".toList, .integer (-1), .string "true".toList]
    let values : List Scalar :=
      [.string "a".toList, .string "b".toList, .integer (-1), .boolean true]
    (∀ x, .float x ∉ strings) ∧ (∀ x, .float x ∉ values) ∧
      renderList strings ≠ renderList values := by
  intro strings values
  have hstrings : ∀ x, .float x ∉ strings := by simp [strings]
  have hvalues : ∀ x, .float x ∉ values := by simp [values]
  refine ⟨hstrings, hvalues, mt (renderList_eq_iff hstrings hvalues).mp ?_⟩
  simp [strings, values]

end FilterQuery
