import FilterQuery.Proofs.LogOrder
import FilterQuery.Proofs.Places
import FilterQuery.Proofs.Trimming
/-!
# Log filters as text

A directive is written so that the reader finds its parts again: the signs that
end a part are not in that part. So a filter that is written is read back as the
same filter.
-/

namespace FilterQuery.LogFilter

open Text

/-! ## Levels -/

theorem ofText?_name (level : LogLevel) : LogLevel.ofText? level.name = some level := by
  cases level <;> decide

theorem isBlank_of_mem_name {level : LogLevel} {c : Char} (h : c ∈ level.name) :
    isBlank c = false := by
  have hall : (level.name.all fun c => !isBlank c) = true := by cases level <;> decide
  simpa using List.all_eq_true.mp hall c h

/-! ## Parts that can be read back -/

/-- Letters and numerals are no white space. -/
theorem isBlank_of_isLetterOrNumeral {c : Char} (h : isLetterOrNumeral c = true) :
    isBlank c = false := by
  have hapart : ((alphabeticRanges ++ numericRanges).all fun range =>
      blankRanges.all fun blank => range.2 < blank.1 || blank.2 < range.1) = true := by
    decide +kernel
  obtain ⟨range, hrange, hc⟩ : ∃ range ∈ alphabeticRanges ++ numericRanges,
      range.1 ≤ c.toNat ∧ c.toNat ≤ range.2 := by
    simpa [isLetterOrNumeral, isLetter, isNumeral, isWithin, or_and_right, exists_or] using h
  rw [isBlank, List.any_eq_false]
  intro blank hblank
  have hblank := List.all_eq_true.mp (List.all_eq_true.mp hapart range hrange) blank hblank
  simp only [Bool.or_eq_true, Bool.and_eq_true, decide_eq_true_eq] at hblank ⊢
  omega

theorem isBlank_of_isWordStart {c : Char} (h : isWordStart c = true) : isBlank c = false := by
  simp only [isWordStart, Bool.or_eq_true, beq_iff_eq] at h
  rcases h with ((rfl | rfl) | rfl) | hletter
  · decide
  · decide
  · decide
  · exact isBlank_of_isLetterOrNumeral hletter

/-- A field whose name has no equals sign, and whose value is read back as it is
written. A field without a value has a name. -/
structure Field.IsReadable (f : Field) : Prop where
  name : '=' ∉ f.name
  named : f.value = none → f.name ≠ []
  value : ∀ v ∈ f.value, '=' ∉ v.text ∧ FieldValue.ofText? v.text = some v

/-- A directive none of whose parts has a sign in it that ends the part or the
directive. The span of a field has a name, if there is one. -/
structure Directive.IsReadable (d : Directive) : Prop where
  target : ∀ t ∈ d.target, (∃ c ∈ t.head?, isWordStart c = true) ∧ ∀ c ∈ t, c ∉ ['=', '[', ',']
  span : ∀ s ∈ d.span, ∀ c ∈ s, c ∉ [']', '\x7b', ',']
  field : ∀ f ∈ d.field, f.IsReadable ∧ ∀ c ∈ f.text, c ∉ ['\x7d', ',']
  named : d.field.isSome = true → d.span ≠ some []

theorem Field.IsReadable.ofText?_text {f : Field} (h : f.IsReadable) : ofText? f.text = some f := by
  obtain ⟨name, value⟩ := f
  have hname : ∀ c ∈ name, (c != '=') = true := fun c hc => by
    rw [bne_iff_ne]
    rintro rfl
    exact h.name hc
  cases value with
  | none =>
      have hne : name ≠ [] := h.named rfl
      have htake : name.takeWhile (· != '=') = name := List.takeWhile_eq_self_iff.mpr hname
      have hdrop : name.dropWhile (· != '=') = [] := List.dropWhile_eq_nil_iff.mpr hname
      simp only [Field.ofText?, text, List.isEmpty_iff, hne, if_false, htake, hdrop]
  | some v =>
      obtain ⟨hequals, hvalue⟩ := h.value v rfl
      have htake : v.text.takeWhile (· != '=') = v.text := by
        refine List.takeWhile_eq_self_iff.mpr fun c hc => ?_
        rw [bne_iff_ne]
        rintro rfl
        exact hequals hc
      simp [Field.ofText?, text, List.takeWhile_append_of_pos hname,
        List.dropWhile_append_of_pos hname, htake, hvalue]

/-! ## Scanning one part -/

/-- The scan of what follows a text, with a part that begins there. -/
def resume (before after : Text) (d : Directive) (place : Place) : Option Directive :=
  scan? (before ++ after) d place before.utf8Size before.utf8Size after

/-- Whether a part goes on at a character. -/
def Place.goesOn : Place → Char → Prop
  | .word, c => c ≠ '=' ∧ c ≠ '['
  | .span, c => c ≠ ']' ∧ c ≠ '\x7b'
  | .field, c => c ≠ '\x7d'
  | .level, _ => True
  | _, _ => False

theorem scan?_cons_of_goesOn {place : Place} {c : Char} (h : place.goesOn c) (written : Text)
    (d : Directive) (start stop : Nat) (rest : Text) :
    scan? written d place start stop (c :: rest) =
      scan? written d place start (stop + c.utf8Size) rest := by
  cases place with
  | word =>
      obtain ⟨hequals, hbracket⟩ := h
      simp [scan?, hequals, hbracket]
  | span =>
      obtain ⟨hbracket, hbrace⟩ := h
      simp [scan?, hbracket, hbrace]
  | field =>
      have hbrace : c ≠ '\x7d' := h
      simp [scan?, hbrace]
  | level => simp [scan?]
  | start => exact False.elim h
  | afterField => exact False.elim h
  | afterSpan => exact False.elim h

theorem scan?_append_of_goesOn {place : Place} {part : Text} (h : ∀ c ∈ part, place.goesOn c)
    (written : Text) (d : Directive) (start stop : Nat) (rest : Text) :
    scan? written d place start stop (part ++ rest) =
      scan? written d place start (stop + part.utf8Size) rest := by
  induction part generalizing stop with
  | nil => rfl
  | cons c part ih =>
      obtain ⟨hc, hpart⟩ := List.forall_mem_cons.mp h
      rw [List.cons_append, scan?_cons_of_goesOn hc, ih hpart, utf8Size_cons, Nat.add_assoc]

/-- The sign after a part is reached with the part behind it. -/
theorem resume_part {place : Place} {part : Text} (h : ∀ c ∈ part, place.goesOn c)
    (before after : Text) (d : Directive) :
    resume before (part ++ after) d place =
      scan? (before ++ part ++ after) d place before.utf8Size (before ++ part).utf8Size after := by
  rw [resume, scan?_append_of_goesOn h, utf8Size_append, List.append_assoc]

variable {before after : Text} {d : Directive}

/-- A target is a word from its first character on. -/
theorem resume_start {target : Text} (hstart : ∃ c ∈ target.head?, isWordStart c = true)
    (h : ∀ c ∈ target, Place.word.goesOn c) :
    resume before (target ++ after) d .start = resume before (target ++ after) d .word := by
  obtain ⟨c, hc, hstart⟩ := hstart
  obtain ⟨rest, rfl⟩ := List.head?_eq_some_iff.mp hc
  have hgoes := h c List.mem_cons_self
  have hbracket : c ≠ '[' := hgoes.2
  rw [List.cons_append, resume, resume, scan?_cons_of_goesOn hgoes, scan?]
  simp [hbracket, hstart]

theorem slice?_part (before part after : Text) :
    slice? (before ++ part ++ after) before.utf8Size (before ++ part).utf8Size = some part := by
  rw [utf8Size_append]
  exact slice?_append before part after

/-- Past a sign a part begins. -/
theorem scan?_next (part : Text) (c : Char) (place : Place) :
    scan? (before ++ part ++ c :: after) d place ((before ++ part).utf8Size + c.utf8Size)
        ((before ++ part).utf8Size + c.utf8Size) after =
      resume (before ++ (part ++ [c])) after d place := by
  have hsize : (before ++ (part ++ [c])).utf8Size = (before ++ part).utf8Size + c.utf8Size := by
    simp [Nat.add_assoc]
  have htext : before ++ part ++ c :: after = before ++ (part ++ [c]) ++ after := by simp
  rw [resume, hsize, htext]

section Parts

variable {part : Text}

theorem resume_word_equals (h : ∀ c ∈ part, Place.word.goesOn c) :
    resume before (part ++ '=' :: after) d .word =
      resume (before ++ (part ++ ['='])) after { d with target := some part } .level := by
  rw [resume_part h, scan?]
  simp only [true_or, if_true, slice?_part]
  exact scan?_next part '=' .level

theorem resume_word_bracket (h : ∀ c ∈ part, Place.word.goesOn c) :
    resume before (part ++ '[' :: after) d .word =
      resume (before ++ (part ++ ['['])) after { d with target := some part } .span := by
  rw [resume_part h, scan?]
  simp only [or_true, if_true, slice?_part]
  exact scan?_next part '[' .span

theorem resume_span_bracket (h : ∀ c ∈ part, Place.span.goesOn c) :
    resume before (part ++ ']' :: after) d .span =
      resume (before ++ (part ++ [']'])) after { d with span := some part } .afterSpan := by
  rw [resume_part h, scan?]
  simp only [if_true, slice?_part]
  exact scan?_next part ']' .afterSpan

theorem resume_span_brace (h : ∀ c ∈ part, Place.span.goesOn c) :
    resume before (part ++ '\x7b' :: after) d .span =
      resume (before ++ (part ++ ['\x7b'])) after
        { d with span := if part.isEmpty then none else some part } .field := by
  rw [resume_part h, scan?]
  simp only [if_true, slice?_part]
  exact scan?_next part '\x7b' .field

theorem resume_field {field : Field} (hreadable : field.IsReadable)
    (h : ∀ c ∈ field.text, Place.field.goesOn c) :
    resume before (field.text ++ '\x7d' :: after) d .field =
      resume (before ++ (field.text ++ ['\x7d'])) after { d with field := some field }
        .afterField := by
  rw [resume_part h, scan?]
  simp only [if_true, slice?_part, Option.bind_eq_bind, Option.bind_some, hreadable.ofText?_text]
  exact scan?_next field.text '\x7d' .afterField

theorem resume_afterField :
    resume before (']' :: after) d .afterField = resume (before ++ [']']) after d .afterSpan := by
  have hnext := @scan?_next before after d [] ']' .afterSpan
  rw [List.append_nil, List.nil_append] at hnext
  rw [resume, scan?, if_pos rfl, hnext]

theorem resume_afterSpan :
    resume before ('=' :: after) d .afterSpan = resume (before ++ ['=']) after d .level := by
  have hnext := @scan?_next before after d [] '=' .level
  rw [List.append_nil, List.nil_append] at hnext
  rw [resume, scan?, if_pos rfl, hnext]

end Parts

theorem resume_level (before : Text) (d : Directive) (level : LogLevel) :
    resume before level.name d .level = some { d with level } := by
  have hne : level.name ≠ [] := by cases level <;> decide
  have hscan := @resume_part .level level.name (fun _ _ => trivial) before [] d
  rw [List.append_nil, List.append_nil] at hscan
  rw [hscan, scan?, finish?, dropBytes?_utf8Size_append]
  simp [hne, ofText?_name]

/-! ## Scanning directives -/

/-- A field in braces, if there is one. -/
def braced : Option Field → Text
  | none => []
  | some field => '\x7b' :: field.text ++ ['\x7d']

section

variable {d : Directive} (h : d.IsReadable)
include h

theorem Directive.IsReadable.goesOn_target {target : Text} (htarget : d.target = some target) :
    ∀ c ∈ target, Place.word.goesOn c := by
  intro c hc
  have hsigns := (h.target target htarget).2 c hc
  simp only [List.mem_cons, not_or] at hsigns
  exact ⟨hsigns.1, hsigns.2.1⟩

theorem Directive.IsReadable.goesOn_span {span : Text} (hspan : d.span = some span) :
    ∀ c ∈ span, Place.span.goesOn c := by
  intro c hc
  have hsigns := h.span span hspan c hc
  simp only [List.mem_cons, not_or] at hsigns
  exact ⟨hsigns.1, hsigns.2.1⟩

theorem Directive.IsReadable.goesOn_field {field : Field} (hfield : d.field = some field) :
    ∀ c ∈ field.text, Place.field.goesOn c := by
  intro c hc
  have hsigns := (h.field field hfield).2 c hc
  simp only [List.mem_cons, not_or] at hsigns
  exact hsigns.1

end

/-- After the brackets of a directive comes its level. -/
theorem resume_closed (before : Text) (d : Directive) (level : LogLevel) :
    resume before ('=' :: level.name) d .afterSpan = some { d with level } := by
  rw [resume_afterSpan, resume_level]

/-- What stands between the brackets of a directive is found again, and so is its
level. -/
theorem resume_span {target span : Option Text} {field : Option Field} {level : LogLevel}
    (h : Directive.IsReadable ⟨target, span, field, level⟩)
    (hinside : span.isSome = true ∨ field.isSome = true) (before : Text) :
    resume before (span.getD [] ++ (braced field ++ ']' :: '=' :: level.name))
      { target } .span = some ⟨target, span, field, level⟩ := by
  cases field with
  | none =>
      obtain ⟨s, rfl⟩ := Option.isSome_iff_exists.mp (hinside.resolve_right (by simp))
      simp only [braced, Option.getD_some, List.nil_append]
      rw [resume_span_bracket (h.goesOn_span rfl), resume_closed]
  | some f =>
      obtain ⟨hreadable, -⟩ := h.field f rfl
      have hfield := h.goesOn_field rfl
      have hname : (if (span.getD []).isEmpty then none else some (span.getD [])) = span := by
        cases span with
        | none => rfl
        | some s =>
            have hne : s ≠ [] := fun hnil => h.named rfl (congrArg some hnil)
            simp [hne]
      have hgoes : ∀ c ∈ span.getD [], Place.span.goesOn c := by
        cases span with
        | none => simp
        | some s => exact h.goesOn_span rfl
      have htext : span.getD [] ++ (braced (some f) ++ ']' :: '=' :: level.name) =
          span.getD [] ++ '\x7b' :: (f.text ++ '\x7d' :: ']' :: '=' :: level.name) := by
        simp [braced]
      rw [htext, resume_span_brace hgoes, hname, resume_field hreadable hfield, resume_afterField,
        resume_closed]

theorem resume_name (level : LogLevel) : resume [] level.name {} .start = some { level } := by
  cases level <;> rfl

theorem resume_open (after : Text) (d : Directive) :
    resume [] ('[' :: after) d .start = resume ['['] after d .span := by
  have hnext := @scan?_next [] after d [] '[' .span
  rw [List.append_nil, List.nil_append] at hnext
  rw [resume, scan?, if_pos rfl]
  exact hnext

theorem Directive.text_of_plain (target : Text) (level : LogLevel) :
    text ⟨some target, none, none, level⟩ = target ++ '=' :: level.name := by
  simp [text, subject]

theorem Directive.text_of_inside (target : Option Text) {span : Option Text}
    {field : Option Field} (h : span.isSome = true ∨ field.isSome = true) (level : LogLevel) :
    text ⟨target, span, field, level⟩ = target.getD [] ++
      '[' :: (span.getD [] ++ (braced field ++ ']' :: '=' :: level.name)) := by
  cases span <;> cases field <;> simp_all [text, subject, braced]

/-- The scan of a directive as it is written gives the directive. -/
theorem Directive.IsReadable.resume_text {d : Directive} (h : d.IsReadable) :
    resume [] d.text {} .start = some d := by
  obtain ⟨target, span, field, level⟩ := d
  by_cases hinside : span.isSome = true ∨ field.isSome = true
  · rw [text_of_inside target hinside]
    cases target with
    | none => exact (resume_open _ _).trans (resume_span h hinside _)
    | some t =>
        have hgoes := h.goesOn_target rfl
        rw [Option.getD_some, resume_start (h.target t rfl).1 hgoes, resume_word_bracket hgoes]
        exact resume_span h hinside _
  · obtain ⟨rfl, rfl⟩ : span = none ∧ field = none := by simpa using hinside
    cases target with
    | none => exact resume_name level
    | some t =>
        have hgoes := h.goesOn_target rfl
        rw [text_of_plain, resume_start (h.target t rfl).1 hgoes, resume_word_equals hgoes]
        exact resume_level _ _ level

/-! ## Whole directives -/

theorem Directive.exists_text_eq_append (d : Directive) :
    ∃ front, d.text = front ++ d.level.name := by
  unfold text
  split
  next => exact ⟨[], rfl⟩
  next => exact ⟨d.subject ++ ['='], by simp⟩

theorem Directive.IsReadable.isFlush_text {d : Directive} (h : d.IsReadable) : IsFlush d.text := by
  obtain ⟨target, span, field, level⟩ := d
  have hname : IsFlush level.name := fun c hc => isBlank_of_mem_name (List.mem_of_mem_head? hc)
  cases target with
  | none =>
      by_cases hinside : span.isSome = true ∨ field.isSome = true
      · rw [text_of_inside none hinside]
        exact isFlush_cons.mpr (by decide)
      · obtain ⟨rfl, rfl⟩ : span = none ∧ field = none := by simpa using hinside
        exact hname
  | some t =>
      obtain ⟨c, hc, hstart⟩ := (h.target t rfl).1
      obtain ⟨rest, rfl⟩ := List.head?_eq_some_iff.mp hc
      obtain ⟨more, hmore⟩ : ∃ more, text ⟨some (c :: rest), span, field, level⟩ = c :: more :=
        ⟨_, rfl⟩
      rw [hmore]
      exact isFlush_cons.mpr (isBlank_of_isWordStart hstart)

/-- A directive is read back as it was. -/
theorem Directive.IsReadable.ofText?_text {d : Directive} (h : d.IsReadable) :
    Directive.ofText? d.text = some d := by
  have hlast : ∀ c ∈ d.text.getLast?, isBlank c = false := by
    obtain ⟨front, htext⟩ := d.exists_text_eq_append
    have hne : d.level.name ≠ [] := by cases d.level <;> decide
    intro c hc
    rw [htext, List.getLast?_append_of_ne_nil front hne] at hc
    exact isBlank_of_mem_name (List.mem_of_mem_getLast? hc)
  have htrim : d.text.trim = d.text := by
    rw [trim, h.isFlush_text.trimStart_eq, trimEnd_eq_self hlast]
  rw [Directive.ofText?, htrim]
  exact h.resume_text

/-! ## Filters -/

theorem Directive.IsReadable.comma_notMem_text {d : Directive} (h : d.IsReadable) :
    ',' ∉ d.text := by
  obtain ⟨target, span, field, level⟩ := d
  have hlevel : ',' ∉ level.name := by cases level <;> decide
  have htarget : ',' ∉ target.getD [] := by
    cases target with
    | none => exact List.not_mem_nil
    | some t => exact fun hmem => (h.target t rfl).2 ',' hmem (by simp)
  have hspan : ',' ∉ span.getD [] := by
    cases span with
    | none => exact List.not_mem_nil
    | some s => exact fun hmem => h.span s rfl ',' hmem (by simp)
  have hfield : ',' ∉ braced field := by
    cases field with
    | none => exact List.not_mem_nil
    | some f =>
        have htext : ',' ∉ f.text := fun hmem => (h.field f rfl).2 ',' hmem (by simp)
        simp [braced, htext]
  by_cases hinside : span.isSome = true ∨ field.isSome = true
  · rw [text_of_inside target hinside]
    simp [htarget, hspan, hfield, hlevel]
  · obtain ⟨rfl, rfl⟩ : span = none ∧ field = none := by simpa using hinside
    cases target with
    | none => exact hlevel
    | some t =>
        rw [text_of_plain]
        simpa [hlevel] using htarget

theorem Directive.text_ne_nil (d : Directive) : d.text ≠ [] := by
  obtain ⟨front, htext⟩ := d.exists_text_eq_append
  have hne : d.level.name ≠ [] := by cases d.level <;> decide
  simp [htext, hne]

theorem joined_eq_intercalate (parts : List Text) :
    joined [','] parts = [','].intercalate parts := by
  fun_induction joined [','] parts with
  | case1 => rfl
  | case2 part => simp
  | case3 part next rest ih => simp [ih, List.intercalate_cons_cons]

theorem pieces_joined {parts : List Text} (hcomma : ∀ part ∈ parts, ',' ∉ part)
    (hne : ∀ part ∈ parts, part ≠ []) : pieces (joined [','] parts) = parts := by
  cases parts with
  | nil => rfl
  | cons part rest =>
      rw [pieces, joined_eq_intercalate,
        List.splitOn_intercalate ',' hcomma (List.cons_ne_nil part rest)]
      refine List.filter_eq_self.mpr fun piece hpiece => ?_
      simpa using hne piece hpiece

theorem mapM_ofText?_text {directives : List Directive} (h : ∀ d ∈ directives, d.IsReadable) :
    (directives.map Directive.text).mapM Directive.ofText? = some directives := by
  induction directives with
  | nil => rfl
  | cons d directives ih =>
      obtain ⟨hd, hdirectives⟩ := List.forall_mem_cons.mp h
      simp [hd.ofText?_text, ih hdirectives]

theorem mem_of_mem_ofDirectives {directives : List Directive} {d : Directive}
    (h : d ∈ (ofDirectives directives).statics ++ (ofDirectives directives).dynamics) :
    d ∈ directives := by
  rcases List.mem_append.mp h with h | h
  · exact mem_of_lastOf? ((mem_ofDirectives_iff directives d).1.mp h).1
  · exact mem_of_lastOf? ((mem_ofDirectives_iff directives d).2.mp h).1

/-- A filter is read back from its text as it was: each directive is, and the
directives of a filter make up that filter again. -/
theorem ofVariable_text {directives : List Directive} (h : ∀ d ∈ directives, d.IsReadable) :
    ofVariable (some (ofDirectives directives).text) = ofDirectives directives := by
  have hown : ∀ d ∈ (ofDirectives directives).statics ++ (ofDirectives directives).dynamics,
      d.IsReadable := fun d hd => h d (mem_of_mem_ofDirectives hd)
  have hpieces : pieces (ofDirectives directives).text =
      ((ofDirectives directives).statics ++ (ofDirectives directives).dynamics).map
        Directive.text := by
    refine pieces_joined ?_ ?_
    · exact List.forall_mem_map.mpr fun d hd => (hown d hd).comma_notMem_text
    · exact List.forall_mem_map.mpr fun d _ => d.text_ne_nil
  have hread : ofText? (ofDirectives directives).text = some (ofDirectives directives) := by
    rw [ofText?, hpieces, mapM_ofText?_text hown, Option.map_some, ofDirectives_own]
  exact congrArg (Option.getD · warnings) hread

example : (ofVariable none).text = "warn".toList := by decide

end FilterQuery.LogFilter
