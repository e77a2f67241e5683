import FilterQuery.Proofs.JsonWriting
/-!
# Reading back JSON

Whatever is JSON for a datum is read as that datum, wherever white space stands
and however the characters of its strings are escaped: strings with any
characters in them stay the same strings. Every reader takes exactly what stands
for its part and leaves what follows. So a datum that can be written is read
back as it was.
-/

namespace FilterQuery.Json

/-! ## Strings -/

/-- An escape of a backslash and a letter is read as the character it is for. -/
theorem readUnits?_simpleEscape {letter c : Char} (hletter : letter ≠ 'u')
    (h : simpleEscape? letter = some c) (text : Text) :
    readUnits? .plain ('\\' :: letter :: text) =
      (readUnits? .plain text).map fun (units, after) => (c.toNat :: units, after) := by
  simp [readUnits?, hletter, h]

/-- An escape with two digits behind two zeros is read as the character that the
digits stand for. -/
theorem readUnits?_digits {high low : Char} {n m : Nat} (hhigh : digitValue? high = some n)
    (hlow : digitValue? low = some m) (text : Text) :
    readUnits? .plain ('\\' :: 'u' :: '0' :: '0' :: high :: low :: text) =
      (readUnits? .plain text).map fun (units, after) => ((n * 16 + m) :: units, after) := by
  have hzero : digitValue? '0' = some 0 := by decide
  simp [readUnits?, hzero, hhigh, hlow]

theorem DenotesChar.readUnits? {written : Text} {c : Char} (h : DenotesChar written c)
    (text : Text) :
    readUnits? .plain (written ++ text) =
      (readUnits? .plain text).map fun (units, after) => (c.toNat :: units, after) := by
  cases h with
  | plain hplain =>
      obtain ⟨hquote, hslash, hcontrol⟩ : c ≠ '"' ∧ c ≠ '\\' ∧ ¬ c.toNat < 0x20 := by
        simpa [IsEscaped] using hplain
      simp [Json.readUnits?, hquote, hslash, hcontrol]
  | @letter letter _ _ hletter =>
      have hu : letter ≠ 'u' := by
        rintro rfl
        simp [simpleEscape?] at hletter
      exact readUnits?_simpleEscape hu hletter text
  | digits _ hhigh hlow hvalue => exact hvalue ▸ readUnits?_digits hhigh hlow text

/-- The characters of a string, whatever they are, are read up to its closing
quote. -/
theorem DenotesString.readUnits? {written value : Text} (h : DenotesString written value)
    (rest : Text) :
    readUnits? .plain (written ++ '"' :: rest) = some (value.map Char.toNat, rest) := by
  induction h with
  | nil => simp [Json.readUnits?]
  | cons hc _ ih =>
      rw [List.append_assoc, hc.readUnits?, ih]
      rfl

/-- No character is half of a surrogate pair. -/
theorem not_isSurrogate (c : Char) :
    isHighSurrogate c.toNat = false ∧ isLowSurrogate c.toNat = false := by
  have hvalid : c.toNat.isValidChar := c.valid
  simp only [Nat.isValidChar] at hvalid
  simp only [isHighSurrogate, isLowSurrogate, Bool.and_eq_false_iff, decide_eq_false_iff_not]
  omega

theorem textOfUnits?_map_toNat (value : Text) :
    textOfUnits? (value.map Char.toNat) = some value := by
  induction value with
  | nil => rfl
  | cons c value ih =>
      cases value with
      | nil => simp [textOfUnits?, not_isSurrogate c]
      | cons d value =>
          rw [List.map_cons] at ih
          simp [textOfUnits?, not_isSurrogate c, ih]

theorem DenotesString.readString? {written value : Text} (h : DenotesString written value)
    (rest : Text) : readString? (written ++ '"' :: rest) = some (some value, rest) := by
  rw [Json.readString?, h.readUnits?, Option.map_some]
  simp only [textOfUnits?_map_toNat]

/-! ## Whole numbers -/

/-- Digits that stand for a number within the bound are all taken. -/
theorem takeWhole_of_lt {significand : Nat} {digits : Text}
    (h : Nat.ofDigitChars 10 digits significand < significandBound) :
    takeWhole significand digits = (Nat.ofDigitChars 10 digits significand, 0) := by
  induction digits generalizing significand with
  | nil => rfl
  | cons digit digits ih =>
      rw [Nat.ofDigitChars_cons, Nat.mul_comm] at h ⊢
      have hgrows : significand * 10 + (digit.toNat - '0'.toNat) ≤
          Nat.ofDigitChars 10 digits (significand * 10 + (digit.toNat - '0'.toNat)) := by
        rw [Nat.ofDigitChars_eq_ofDigitChars_zero]
        exact Nat.le_add_right_of_le (Nat.le_mul_of_pos_left _ (Nat.pow_pos (by decide)))
      have hdigit : appendDigit? significand digit =
          some (significand * 10 + (digit.toNat - '0'.toNat)) := by
        unfold appendDigit?
        exact if_pos (Nat.lt_of_le_of_lt hgrows h)
      rw [takeWhole, hdigit]
      exact ih h

/-- The digits of a number do not begin with a zero, unless it is zero. -/
theorem head?_toDigits_ne {n : Nat} (h : n ≠ 0) : (Nat.toDigits 10 n).head? ≠ some '0' := by
  induction n using Nat.strongRecOn with
  | ind n ih =>
      by_cases hsmall : n < 10
      · have hdigit : ∀ n < 10, n ≠ 0 → [Nat.digitChar n].head? ≠ some '0' := by decide
        rw [Nat.toDigits_of_lt_base hsmall]
        exact hdigit n hsmall h
      · rw [Nat.toDigits_of_base_le (by decide) (by omega),
          List.head?_append_of_ne_nil _ Nat.toDigits_ne_nil]
        exact ih (n / 10) (by omega) (by omega)

/-- Whether what follows a number cannot be part of it. -/
def EndsNumber (rest : Text) : Prop :=
  ∀ c ∈ rest.head?, c.isDigit = false ∧ c ≠ '.' ∧ c ≠ 'e' ∧ c ≠ 'E'

theorem readDigits_toDigits (n : Nat) {rest : Text} (h : EndsNumber rest) :
    readDigits (Nat.toDigits 10 n ++ rest) = (Nat.toDigits 10 n, rest) := by
  have hdigits : ∀ c ∈ Nat.toDigits 10 n, c.isDigit = true :=
    fun c hc => Nat.isDigit_of_mem_toDigits (by decide) (by decide) hc
  have hrest : rest.takeWhile Char.isDigit = [] ∧ rest.dropWhile Char.isDigit = rest := by
    cases rest with
    | nil => exact ⟨rfl, rfl⟩
    | cons c rest => simp [(h c rfl).1]
  rw [readDigits, List.takeWhile_append_of_pos hdigits, List.dropWhile_append_of_pos hdigits,
    hrest.1, hrest.2, List.append_nil]

theorem readWhole?_toDigits (n : Nat) {rest : Text} (h : EndsNumber rest) :
    readWhole? (Nat.toDigits 10 n ++ rest) = some (Nat.toDigits 10 n, rest) := by
  rw [readWhole?, readDigits_toDigits n h]
  split
  next heq => exact absurd (congrArg Prod.fst heq) Nat.toDigits_ne_nil
  next digit digits after heq =>
    -- More digits after a zero: the number is not zero, and begins with another digit.
    have hdigits : Nat.toDigits 10 n = '0' :: digit :: digits := congrArg Prod.fst heq
    have hzero : n ≠ 0 := by
      rintro rfl
      simp at hdigits
    exact absurd (by rw [hdigits]; rfl) (head?_toDigits_ne hzero)
  next digits after _ _ heq => rw [heq]

theorem readFraction?_of_endsNumber {rest : Text} (h : EndsNumber rest) :
    readFraction? rest = some ([], rest) := by
  unfold readFraction?
  split
  next after => exact absurd rfl (h '.' rfl).2.1
  next => rfl

theorem readPower?_of_endsNumber {rest : Text} (h : EndsNumber rest) :
    readPower? rest = some (none, rest) := by
  cases rest with
  | nil => rfl
  | cons c rest =>
      obtain ⟨-, -, hlower, hupper⟩ := h c rfl
      simp [readPower?, hlower, hupper]

theorem takeWhole_toDigits {n : Nat} (h : n < significandBound) :
    takeWhole 0 (Nat.toDigits 10 n) = (n, 0) := by
  rw [takeWhole_of_lt (by rwa [Nat.ofDigitChars_ten_toDigits]), Nat.ofDigitChars_ten_toDigits]

theorem numberDatum_ofNat {n : Nat} (h : n < significandBound) :
    numberDatum false (Nat.toDigits 10 n) [] none = .integer n := by
  have hmin : Int64.minValue.toInt ≤ n := by
    have hneg : Int64.minValue.toInt ≤ 0 := by decide
    omega
  rw [numberDatum, takeWhole_toDigits h]
  exact if_pos ⟨rfl, rfl, rfl, hmin, fun hzero => Bool.false_ne_true hzero.1⟩

theorem numberDatum_neg {n : Nat} (h : Int64.minValue.toInt ≤ -n) (hpos : n ≠ 0) :
    numberDatum true (Nat.toDigits 10 n) [] none = .integer (-n) := by
  have hbound : n < significandBound := by
    have hmin : -(significandBound : Int) < Int64.minValue.toInt := by decide
    omega
  rw [numberDatum, takeWhole_toDigits hbound]
  exact if_pos ⟨rfl, rfl, rfl, h, fun hzero => hpos hzero.2⟩

theorem exists_toDigits_eq_cons (n : Nat) :
    ∃ digit digits, Nat.toDigits 10 n = digit :: digits ∧ digit.isDigit = true := by
  obtain ⟨digit, digits, hdigits⟩ := List.exists_cons_of_ne_nil (@Nat.toDigits_ne_nil n 10)
  refine ⟨digit, digits, hdigits, ?_⟩
  exact Nat.isDigit_of_mem_toDigits (by decide) (by decide) (hdigits ▸ List.mem_cons_self)

theorem exists_ofInt_eq_cons (n : Int) :
    ∃ c digits, Text.ofInt n = c :: digits ∧ (c = '-' ∨ c.isDigit = true) := by
  cases n with
  | ofNat n =>
      obtain ⟨digit, digits, hdigits, hdigit⟩ := exists_toDigits_eq_cons n
      exact ⟨digit, digits, hdigits, .inr hdigit⟩
  | negSucc n => exact ⟨'-', _, rfl, .inl rfl⟩

theorem readNumber?_neg_toDigits (n : Nat) {rest : Text} (h : EndsNumber rest) :
    readNumber? ('-' :: (Nat.toDigits 10 n ++ rest)) =
      some (numberDatum true (Nat.toDigits 10 n) [] none, rest) := by
  rw [readNumber?]
  simp [readWhole?_toDigits n h, readFraction?_of_endsNumber h, readPower?_of_endsNumber h]

theorem readNumber?_toDigits (n : Nat) {rest : Text} (h : EndsNumber rest) :
    readNumber? (Nat.toDigits 10 n ++ rest) =
      some (numberDatum false (Nat.toDigits 10 n) [] none, rest) := by
  unfold readNumber?
  split
  next negative text heq =>
    split at heq
    next after hminus =>
      -- No digit is a minus sign.
      obtain ⟨digit, digits, hdigits, hdigit⟩ := exists_toDigits_eq_cons n
      rw [hdigits, List.cons_append] at hminus
      obtain ⟨rfl, -⟩ := List.cons.inj hminus
      exact absurd hdigit (by decide)
    next =>
      obtain ⟨rfl, rfl⟩ := Prod.mk.inj heq
      simp [readWhole?_toDigits n h, readFraction?_of_endsNumber h, readPower?_of_endsNumber h]

theorem readNumber?_ofInt {n : Int} (h : FitsInt64 n) {rest : Text} (hrest : EndsNumber rest) :
    readNumber? (Text.ofInt n ++ rest) = some (.integer n, rest) := by
  cases n with
  | ofNat n =>
      have hbound : n < significandBound := by
        have hmax : Int64.maxValue.toInt < significandBound := by decide
        exact Int.ofNat_lt.mp (Int.lt_of_le_of_lt h.2 hmax)
      rw [Text.ofInt, Text.ofNat, readNumber?_toDigits n hrest, numberDatum_ofNat hbound]
      rfl
  | negSucc n =>
      have hmin : Int64.minValue.toInt ≤ -(n + 1 : Nat) := h.1
      rw [Text.ofInt, Text.ofNat, List.cons_append, readNumber?_neg_toDigits (n + 1) hrest,
        numberDatum_neg hmin (Nat.succ_ne_zero n)]
      rfl

/-! ## White space -/

theorem skipSpace_append {gap : Text} (h : IsGap gap) (text : Text) :
    skipSpace (gap ++ text) = skipSpace text := List.dropWhile_append_of_pos h

theorem skipSpace_cons {c : Char} (h : isSpace c = false) (rest : Text) :
    skipSpace (c :: rest) = c :: rest := by
  simp [skipSpace, h]

theorem readValue?_append {gap : Text} (h : IsGap gap) (fuel : Nat)
    (text : Text) : readValue? fuel (gap ++ text) = readValue? fuel text := by
  cases fuel with
  | zero => rfl
  | succ fuel => rw [readValue?, readValue?, skipSpace_append h]

/-! ## Values -/

/-- Whether a character begins no value: it may be skipped before one, or ends a
list. -/
def beginsValue (c : Char) : Bool := !isSpace c && c != ']'

theorem isSpace_of_beginsValue {c : Char} (h : beginsValue c = true) : isSpace c = false :=
  (Bool.not_eq_true' _).mp (Bool.and_eq_true_iff.mp h).1

theorem beginsValue_of_number {c : Char} (h : c = '-' ∨ c.isDigit = true) :
    beginsValue c = true := by
  simp only [beginsValue, isSpace, Bool.and_eq_true, Bool.not_eq_true', Bool.or_eq_false_iff,
    beq_eq_false_iff_ne, bne_iff_ne]
  refine ⟨⟨⟨⟨?_, ?_⟩, ?_⟩, ?_⟩, ?_⟩ <;> rintro rfl <;> exact absurd h (by decide)

/-- What stands for a datum begins with a character that no reader skips or takes
for the end of a list. -/
theorem Denotes.exists_eq_cons {written : Text} {datum : Datum} (h : Denotes written datum) :
    ∃ c rest, written = c :: rest ∧ beginsValue c = true := by
  cases h with
  | null => exact ⟨'n', _, rfl, by decide⟩
  | boolean value =>
      cases value with
      | false => exact ⟨'f', _, rfl, by decide⟩
      | true => exact ⟨'t', _, rfl, by decide⟩
  | @integer value _ =>
      obtain ⟨c, digits, hwritten, hc⟩ := exists_ofInt_eq_cons value
      exact ⟨c, digits, hwritten, beginsValue_of_number hc⟩
  | text _ => exact ⟨'"', _, rfl, by decide⟩
  | list _ _ _ => exact ⟨'[', _, rfl, by decide⟩
  | record _ _ _ _ => exact ⟨'{', _, rfl, by decide⟩

theorem endsNumber_cons {c : Char} (h : isSpace c = true ∨ c ∈ [',', ']', '}']) (rest : Text) :
    EndsNumber (c :: rest) := by
  intro d hd
  obtain rfl := Option.some.inj hd
  simp only [isSpace, Bool.or_eq_true, beq_iff_eq, List.mem_cons, List.not_mem_nil, or_false] at h
  rcases h with (((rfl | rfl) | rfl) | rfl) | rfl | rfl | rfl <;> decide

theorem endsNumber_append {gap : Text} (hgap : IsGap gap) {c : Char}
    (hc : c ∈ [',', ']', '}']) (rest : Text) : EndsNumber (gap ++ c :: rest) := by
  cases gap with
  | nil => exact endsNumber_cons (.inr hc) rest
  | cons space gap => exact endsNumber_cons (.inl (hgap space List.mem_cons_self)) _

/-- With fuel for every character, the reader takes the datum from what stands
for it and leaves what follows. -/
def ReadsBack (written : Text) (datum : Datum) : Prop :=
  ∀ fuel rest, written.length ≤ fuel → EndsNumber rest →
    readValue? (fuel + 1) (written ++ rest) = some (datum, rest)

theorem readsBack_null : ReadsBack "null".toList .null := by
  intro fuel rest _ _
  simp [readValue?, skipSpace, isSpace, Text.stripStart?]

theorem readsBack_boolean (value : Bool) :
    ReadsBack (if value then "true".toList else "false".toList) (.boolean value) := by
  intro fuel rest _ _
  cases value <;> simp [readValue?, skipSpace, isSpace, Text.stripStart?]

theorem readsBack_text {written value : Text} (h : DenotesString written value) :
    ReadsBack ('"' :: (written ++ ['"'])) (.text value) := by
  intro fuel rest _ _
  rw [List.cons_append, List.append_assoc, List.singleton_append, readValue?,
    skipSpace_cons (by decide)]
  simp [h.readString?, stringDatum]

/-- What begins with a digit or a minus sign is read as a number. -/
theorem readValue?_eq_readNumber? {c : Char} (h : c = '-' ∨ c.isDigit = true) (fuel : Nat)
    (rest : Text) : readValue? (fuel + 1) (c :: rest) = readNumber? (c :: rest) := by
  have hspace : isSpace c = false := isSpace_of_beginsValue (beginsValue_of_number h)
  have hspecial : c ≠ '"' ∧ c ≠ '[' ∧ c ≠ '{' ∧ c ≠ 't' ∧ c ≠ 'f' ∧ c ≠ 'n' := by
    refine ⟨?_, ?_, ?_, ?_, ?_, ?_⟩ <;> rintro rfl <;> exact absurd h (by decide)
  rw [readValue?, skipSpace_cons hspace]
  simp [hspecial]

theorem readsBack_integer {value : Int} (h : FitsInt64 value) :
    ReadsBack (Text.ofInt value) (.integer value) := by
  intro fuel rest _ hrest
  obtain ⟨c, digits, hwritten, hc⟩ := exists_ofInt_eq_cons value
  have hread := readNumber?_ofInt h hrest
  rw [hwritten, List.cons_append] at hread
  rw [hwritten, List.cons_append, readValue?_eq_readNumber? hc, hread]

/-! ## Lists and records -/

theorem joined_comma_cons (part next : Text) (rest : List Text) :
    Text.joined [','] (part :: next :: rest) = part ++ ',' :: Text.joined [','] (next :: rest) := by
  simp [Text.joined]

theorem exists_joined_cons (part : Text) (rest : List Text) :
    ∃ tail, Text.joined [','] (part :: rest) = part ++ tail := by
  cases rest with
  | nil => exact ⟨[], (List.append_nil part).symm⟩
  | cons next rest => exact ⟨_, joined_comma_cons part next rest⟩

theorem readItems?_append {gap : Text} (h : IsGap gap) (fuel : Nat) (text : Text) :
    readItems? fuel (gap ++ text) = readItems? fuel text := by
  cases fuel with
  | zero => rfl
  | succ fuel => rw [readItems?, readItems?, readValue?_append h]

theorem readFields?_append {gap : Text} (h : IsGap gap) (fuel : Nat) (text : Text) :
    readFields? fuel (gap ++ text) = readFields? fuel text := by
  cases fuel with
  | zero => rfl
  | succ fuel => rw [readFields?, readFields?, skipSpace_append h]

/-- One item is read, and what follows it decides. -/
theorem readItems?_item {i : Item} (hspaced : i.IsSpaced) (h : ReadsBack i.written i.datum)
    {fuel : Nat} {rest : Text} (hfuel : i.text.length ≤ fuel)
    (hrest : EndsNumber (i.after ++ rest)) :
    readItems? (fuel + 2) (i.text ++ rest) =
      match skipSpace rest with
      | ',' :: rest => do
          let (items, after) ← readItems? (fuel + 1) rest
          some (i.datum :: items, after)
      | ']' :: after => some ([i.datum], after)
      | _ => none := by
  simp only [Item.text, List.length_append] at hfuel
  rw [Item.text, List.append_assoc, List.append_assoc, readItems?_append hspaced.before, readItems?,
    h fuel _ (by omega) hrest, ← skipSpace_append hspaced.after rest]
  rfl

/-- The items of a list are read up to the closing bracket. -/
theorem readItems?_joined {i : Item} {items : List Item} (hspaced : ∀ j ∈ i :: items, j.IsSpaced)
    (h : ∀ j ∈ i :: items, ReadsBack j.written j.datum) {gap : Text} (hgap : IsGap gap)
    (fuel : Nat) (rest : Text)
    (hfuel : (Text.joined [','] ((i :: items).map Item.text)).length < fuel) :
    readItems? (fuel + 1) (Text.joined [','] ((i :: items).map Item.text) ++
        (gap ++ ']' :: rest)) = some ((i :: items).map Item.datum, rest) := by
  obtain ⟨fuel, rfl⟩ := Nat.exists_eq_succ_of_ne_zero (Nat.ne_zero_of_lt hfuel)
  induction items generalizing i fuel with
  | nil =>
      obtain ⟨hspaced, h⟩ := And.intro (hspaced i List.mem_cons_self) (h i List.mem_cons_self)
      have hends : EndsNumber (i.after ++ (gap ++ ']' :: rest)) := by
        rw [← List.append_assoc]
        exact endsNumber_append (List.forall_mem_append.mpr ⟨hspaced.after, hgap⟩) (by simp) rest
      simp only [List.map_cons, List.map_nil, Text.joined] at hfuel ⊢
      rw [readItems?_item hspaced h (by omega) hends, skipSpace_append hgap,
        skipSpace_cons (by decide)]
      rfl
  | cons next items ih =>
      obtain ⟨hspacedItem, hspaced⟩ := List.forall_mem_cons.mp hspaced
      obtain ⟨hitem, h⟩ := List.forall_mem_cons.mp h
      simp only [List.map_cons, joined_comma_cons, List.length_append, List.length_cons] at hfuel
      obtain ⟨fuel, rfl⟩ := Nat.exists_eq_succ_of_ne_zero (n := fuel) (by omega)
      have hrest := ih hspaced h fuel (by simp only [List.map_cons]; omega)
      have hends := fun rest => endsNumber_append (c := ',') hspacedItem.after (by simp) rest
      simp only [List.map_cons, joined_comma_cons, List.append_assoc, List.cons_append] at hrest ⊢
      rw [readItems?_item hspacedItem hitem (by omega) (hends _), skipSpace_cons (by decide)]
      simp [hrest]

/-- One field is read, and what follows it decides. -/
theorem readFields?_field {f : Field} (hspaced : f.IsSpaced)
    (hname : DenotesString f.written f.name) (h : ReadsBack f.value.written f.value.datum)
    {fuel : Nat} {rest : Text} (hfuel : f.text.length ≤ fuel)
    (hrest : EndsNumber (f.value.after ++ rest)) :
    readFields? (fuel + 2) (f.text ++ rest) =
      match skipSpace rest with
      | ',' :: rest => do
          let (fields, after) ← readFields? (fuel + 1) rest
          some (addField (some f.name) f.value.datum fields, after)
      | '}' :: after => some (addField (some f.name) f.value.datum (some []), after)
      | _ => none := by
  simp only [Field.text, Item.text, List.length_append, List.length_cons] at hfuel
  simp only [Field.text, Item.text, List.append_assoc, List.cons_append]
  rw [readFields?_append hspaced.before, readFields?, skipSpace_cons (by decide)]
  simp only [hname.readString?, Option.bind_eq_bind, Option.bind_some]
  rw [skipSpace_append hspaced.after, skipSpace_cons (by decide)]
  simp only [readValue?_append hspaced.value.before]
  rw [h fuel _ (by omega) hrest, ← skipSpace_append hspaced.value.after rest]
  rfl

/-- The fields of a record are read up to the closing brace. -/
theorem readFields?_joined {f : Field} {fields : List Field}
    (hspaced : ∀ g ∈ f :: fields, g.IsSpaced)
    (hnames : ∀ g ∈ f :: fields, DenotesString g.written g.name)
    (h : ∀ g ∈ f :: fields, ReadsBack g.value.written g.value.datum) {gap : Text}
    (hgap : IsGap gap) (fuel : Nat) (rest : Text)
    (hfuel : (Text.joined [','] ((f :: fields).map Field.text)).length < fuel) :
    readFields? (fuel + 1) (Text.joined [','] ((f :: fields).map Field.text) ++
        (gap ++ '}' :: rest)) = some (some ((f :: fields).map Field.entry), rest) := by
  obtain ⟨fuel, rfl⟩ := Nat.exists_eq_succ_of_ne_zero (Nat.ne_zero_of_lt hfuel)
  induction fields generalizing f fuel with
  | nil =>
      rw [List.forall_mem_singleton] at hspaced hnames h
      have hends : EndsNumber (f.value.after ++ (gap ++ '}' :: rest)) := by
        rw [← List.append_assoc]
        exact endsNumber_append (List.forall_mem_append.mpr ⟨hspaced.value.after, hgap⟩) (by simp)
          rest
      simp only [List.map_cons, List.map_nil, Text.joined] at hfuel ⊢
      rw [readFields?_field hspaced hnames h (by omega) hends, skipSpace_append hgap,
        skipSpace_cons (by decide)]
      rfl
  | cons next fields ih =>
      obtain ⟨hspacedField, hspaced⟩ := List.forall_mem_cons.mp hspaced
      obtain ⟨hname, hnames⟩ := List.forall_mem_cons.mp hnames
      obtain ⟨hfield, h⟩ := List.forall_mem_cons.mp h
      simp only [List.map_cons, joined_comma_cons, List.length_append, List.length_cons] at hfuel
      obtain ⟨fuel, rfl⟩ := Nat.exists_eq_succ_of_ne_zero (n := fuel) (by omega)
      have hrest := ih hspaced hnames h fuel (by simp only [List.map_cons]; omega)
      have hends := fun rest => endsNumber_append (c := ',') hspacedField.value.after (by simp) rest
      simp only [List.map_cons, joined_comma_cons, List.append_assoc, List.cons_append] at hrest ⊢
      rw [readFields?_field hspacedField hname hfield (by omega) (hends _),
        skipSpace_cons (by decide)]
      simp [addField, hrest, Field.entry]

theorem readsBack_list {items : List Item} {gap : Text} (hgap : IsGap gap)
    (hspaced : ∀ i ∈ items, i.IsSpaced) (hdenotes : ∀ i ∈ items, Denotes i.written i.datum)
    (h : ∀ i ∈ items, ReadsBack i.written i.datum) :
    ReadsBack ('[' :: (Text.joined [','] (items.map Item.text) ++ (gap ++ [']'])))
      (.list (items.map Item.datum)) := by
  intro fuel rest hfuel _
  simp only [List.length_cons, List.length_append, List.length_nil] at hfuel
  simp only [List.cons_append, List.append_assoc, List.nil_append]
  rw [readValue?, skipSpace_cons (by decide)]
  cases items with
  | nil =>
      simp only [List.map_nil, Text.joined, List.nil_append]
      rw [skipSpace_append hgap, skipSpace_cons (by decide)]
      rfl
  | cons i items =>
      obtain ⟨fuel, rfl⟩ := Nat.exists_eq_succ_of_ne_zero (n := fuel) (by omega)
      have hitems := readItems?_joined hspaced h hgap fuel rest (by omega)
      have hbefore := (hspaced i List.mem_cons_self).before
      obtain ⟨c, written, hwritten, hc⟩ := (hdenotes i List.mem_cons_self).exists_eq_cons
      obtain ⟨tail, htail⟩ := exists_joined_cons i.text (items.map Item.text)
      -- The reader looks for the closing bracket of an empty list first.
      have hbracket : c ≠ ']' := by
        rintro rfl
        exact absurd hc (by decide)
      rw [List.map_cons, htail] at hitems ⊢
      simp only [Item.text, hwritten, List.append_assoc, List.cons_append] at hitems ⊢
      rw [readItems?_append hbefore] at hitems
      rw [skipSpace_append hbefore, skipSpace_cons (isSpace_of_beginsValue hc)]
      simp [hbracket, hitems]

theorem readsBack_record {fields : List Field} {gap : Text} (hgap : IsGap gap)
    (hspaced : ∀ f ∈ fields, f.IsSpaced) (hnames : ∀ f ∈ fields, DenotesString f.written f.name)
    (h : ∀ f ∈ fields, ReadsBack f.value.written f.value.datum) :
    ReadsBack ('{' :: (Text.joined [','] (fields.map Field.text) ++ (gap ++ ['}'])))
      (.record (fields.map Field.entry)) := by
  intro fuel rest hfuel _
  simp only [List.length_cons, List.length_append, List.length_nil] at hfuel
  simp only [List.cons_append, List.append_assoc, List.nil_append]
  rw [readValue?, skipSpace_cons (by decide)]
  cases fields with
  | nil =>
      simp only [List.map_nil, Text.joined, List.nil_append]
      rw [skipSpace_append hgap, skipSpace_cons (by decide)]
      rfl
  | cons f fields =>
      obtain ⟨fuel, rfl⟩ := Nat.exists_eq_succ_of_ne_zero (n := fuel) (by omega)
      have hfields := readFields?_joined hspaced hnames h hgap fuel rest (by omega)
      have hbefore := (hspaced f List.mem_cons_self).before
      obtain ⟨tail, htail⟩ := exists_joined_cons f.text (fields.map Field.text)
      rw [List.map_cons, htail] at hfields ⊢
      simp only [Field.text, List.append_assoc, List.cons_append] at hfields ⊢
      rw [readFields?_append hbefore] at hfields
      rw [skipSpace_append hbefore, skipSpace_cons (by decide)]
      simp [hfields, recordDatum]

/-! ## Whole texts -/

/-- Whatever is JSON for a datum is read back. The induction is on the way the
datum is written, over the parts of lists and records. -/
theorem Denotes.readsBack {written : Text} {datum : Datum} (h : Denotes written datum) :
    ReadsBack written datum := by
  induction h with
  | null => exact readsBack_null
  | boolean value => exact readsBack_boolean value
  | integer hvalue => exact readsBack_integer hvalue
  | text hvalue => exact readsBack_text hvalue
  | list hgap hspaced hdenotes ih => exact readsBack_list hgap hspaced hdenotes ih
  | record hgap hspaced hnames _ ih => exact readsBack_record hgap hspaced hnames ih

/-- A whole text is read as the datum that it is JSON for. -/
theorem Denotes.read?_eq {written : Text} {datum : Datum} (h : Denotes written datum) :
    read? written = some datum := by
  have hread := h.readsBack _ [] (Nat.le_refl _) (by simp [EndsNumber])
  rw [List.append_nil] at hread
  rw [read?, hread]
  rfl

theorem isReader_read? : IsReader read? := fun _ _ h _ => h.read?_eq

/-! ## Parts of a written text -/

theorem writeAt_infix_writeFields (s : Spacing) (depth : Nat) {field : Text × Datum}
    {fields : List (Text × Datum)} (h : field ∈ fields) :
    writeAt s depth field.2 <:+: writeFields s depth fields := by
  induction fields with
  | nil => simp at h
  | cons first fields ih =>
      rw [writeFields]
      rcases List.mem_cons.mp h with rfl | hmem
      · exact List.infix_append _ _ _
      · exact (ih hmem).trans (List.suffix_append _ _).isInfix

/-- A field of a record is written one level deeper than the record. -/
theorem writeAt_infix_record (s : Spacing) (depth : Nat) {field : Text × Datum}
    {fields : List (Text × Datum)} (h : field ∈ fields) :
    writeAt s (depth + 1) field.2 <:+: writeAt s depth (.record fields) := by
  cases fields with
  | nil => simp at h
  | cons first fields =>
      rcases List.mem_cons.mp h with rfl | hmem
      · refine ⟨'{' :: (s.lineStart (depth + 1) ++ writeString field.1 ++ ':' :: s.afterColon),
          writeFields s (depth + 1) fields ++ s.lineStart depth ++ ['}'], ?_⟩
        simp [writeAt]
      · refine (writeAt_infix_writeFields s (depth + 1) hmem).trans ?_
        refine ⟨'{' :: (s.lineStart (depth + 1) ++ writeString first.1 ++ ':' :: s.afterColon ++
          writeAt s (depth + 1) first.2), s.lineStart depth ++ ['}'], ?_⟩
        simp [writeAt]

end FilterQuery.Json
