import FilterQuery.Proofs.LogText
/-!
# Patterns that can be run

If a pattern changes no modes, it can be run exactly if it is not nested too deep
and does not depend on the tables of Unicode. A text without signs is a pattern
for itself, and can always be run. Whatever is asked for, no log filter has a
pattern in it that cannot be run.
-/

namespace FilterQuery

/-! ## Patterns that change no modes -/

mutual

/-- Whether a set can only be told with the tables of Unicode. -/
def CharSet.needsTables : CharSet → Bool
  | .shorthand _ => true
  | .union sets => charSetsNeedTables sets
  | .combined left right => left.needsTables || right.needsTables
  | .bracketed _ set => set.needsTables
  | _ => false

def charSetsNeedTables : List CharSet → Bool
  | [] => false
  | set :: rest => set.needsTables || charSetsNeedTables rest

end

mutual

/-- Whether a pattern can only be run with the tables of Unicode. -/
def Pattern.needsTables : Pattern → Bool
  | .wordEdge | .shorthand _ => true
  | .charSet _ set => set.needsTables
  | .repeated pattern => pattern.needsTables
  | .group _ pattern => pattern.needsTables
  | .sequence patterns => patternsNeedTables patterns
  | .choice patterns => patternsNeedTables patterns
  | _ => false

def patternsNeedTables : List Pattern → Bool
  | [] => false
  | pattern :: rest => pattern.needsTables || patternsNeedTables rest

end

mutual

/-- Whether a pattern changes no modes. -/
def Pattern.keepsModes : Pattern → Bool
  | .modes _ => false
  | .repeated pattern => pattern.keepsModes
  | .group change pattern => change.isEmpty && pattern.keepsModes
  | .sequence patterns => patternsKeepModes patterns
  | .choice patterns => patternsKeepModes patterns
  | _ => true

def patternsKeepModes : List Pattern → Bool
  | [] => true
  | pattern :: rest => pattern.keepsModes && patternsKeepModes rest

end

mutual

theorem CharSet.isKnown_default : ∀ set : CharSet, set.isKnown {} = !set.needsTables
  | .nothing => rfl
  | .literal _ => rfl
  | .range _ _ => rfl
  | .named _ => rfl
  | .shorthand _ => rfl
  | .union sets => by
      rw [CharSet.isKnown, charSetsKnown_default sets, CharSet.needsTables]
  | .combined left right => by
      rw [CharSet.isKnown, CharSet.isKnown_default left, CharSet.isKnown_default right,
        CharSet.needsTables, Bool.not_or]
  | .bracketed _ set => by
      rw [CharSet.isKnown, CharSet.isKnown_default set, CharSet.needsTables]
      exact Bool.and_true _

theorem charSetsKnown_default : ∀ sets : List CharSet,
    charSetsKnown {} sets = !charSetsNeedTables sets
  | [] => rfl
  | set :: rest => by
      rw [charSetsKnown, CharSet.isKnown_default set, charSetsKnown_default rest,
        charSetsNeedTables, Bool.not_or]

end

mutual

/-- A pattern that changes no modes leaves the usual ones behind, unless it needs
the tables. -/
theorem Pattern.modesAfter?_default : ∀ pattern : Pattern, pattern.keepsModes = true →
    pattern.modesAfter? {} = if pattern.needsTables then none else some {}
  | .nothing, _ => rfl
  | .modes _, h => absurd h Bool.false_ne_true
  | .literal _, _ => rfl
  | .anyChar, _ => rfl
  | .lineEdge, _ => rfl
  | .wordEdge, _ => rfl
  | .shorthand _, _ => rfl
  | .charSet negated set, _ => by
      rw [Pattern.modesAfter?, CharSet.isKnown_default, Pattern.needsTables, CharSet.needsTables]
      cases set.needsTables <;> rfl
  | .repeated pattern, h => Pattern.modesAfter?_default pattern h
  | .group change pattern, h => by
      obtain ⟨hchange, hpattern⟩ := Bool.and_eq_true_iff.mp h
      obtain rfl := List.isEmpty_iff.mp hchange
      have hmodes : PatternModes.apply {} [] = {} := rfl
      rw [Pattern.modesAfter?, hmodes, Pattern.modesAfter?_default pattern hpattern,
        Pattern.needsTables]
      cases pattern.needsTables <;> rfl
  | .sequence patterns, h => modesAfterAll?_default patterns h
  | .choice patterns, h => modesAfterAll?_default patterns h

theorem modesAfterAll?_default : ∀ patterns : List Pattern, patternsKeepModes patterns = true →
    modesAfterAll? {} patterns = if patternsNeedTables patterns then none else some {}
  | [], _ => rfl
  | pattern :: rest, h => by
      obtain ⟨hpattern, hrest⟩ := Bool.and_eq_true_iff.mp h
      rw [modesAfterAll?, Pattern.modesAfter?_default pattern hpattern, patternsNeedTables]
      cases pattern.needsTables with
      | true => rfl
      | false => exact modesAfterAll?_default rest hrest

end

theorem Pattern.isUsable_iff {pattern : Pattern} (h : pattern.keepsModes = true) :
    pattern.isUsable = true ↔ pattern.depth ≤ depthLimit ∧ pattern.needsTables = false := by
  rw [isUsable, modesAfter?_default pattern h]
  cases pattern.needsTables <;> simp

/-! ## Texts without signs -/

namespace Pattern

/-- The characters that do not stand for themselves in a pattern. -/
def signs : Text := ['(', ')', '|', '?', '*', '+', '\x7b', '.', '^', '$', '[', '\\']

/-- A character that stands for itself. -/
def ofChar (c : Char) : Pattern := .literal ⟨c, false⟩

theorem readPieces?_of_plain {text : Text} (h : ∀ c ∈ text, c ∉ signs) {fuel : Nat}
    (hfuel : text.length < fuel) (names : List Text) :
    readPieces? fuel false [] names text = some (text.map fun c => .part (ofChar c)) := by
  obtain ⟨fuel, rfl⟩ := Nat.exists_eq_succ_of_ne_zero (Nat.ne_zero_of_lt hfuel)
  induction text generalizing fuel with
  | nil => rfl
  | cons c text ih =>
      obtain ⟨hc, htext⟩ := List.forall_mem_cons.mp h
      simp only [signs, List.mem_cons, List.not_mem_nil, or_false, not_or] at hc
      rw [List.length_cons] at hfuel
      obtain ⟨fuel, rfl⟩ := Nat.exists_eq_succ_of_ne_zero (n := fuel) (by omega)
      rw [readPieces?]
      simp [skip, hc, ih htext fuel (by omega), ofChar]

theorem assemble?_map_part (patterns : List Pattern) (group : OpenGroup) :
    assemble? group [] (patterns.map .part) =
      some { group with parts := patterns.reverse ++ group.parts }.content := by
  induction patterns generalizing group with
  | nil => rfl
  | cons pattern patterns ih => simp [assemble?, ih, OpenGroup.add]

/-- A text without signs is the pattern of its characters, one after the other. -/
theorem read?_of_plain {text : Text} (h : ∀ c ∈ text, c ∉ signs) :
    read? text = some (ofSequence (text.map ofChar)) := by
  have hparts := assemble?_map_part (text.map ofChar) {}
  rw [List.map_map, List.append_nil] at hparts
  rw [read?, readPieces?_of_plain h (Nat.lt_succ_self _)]
  refine hparts.trans ?_
  simp [OpenGroup.content, OpenGroup.cut, ofChoice]

theorem isUsable_of_chars (text : Text) : (ofSequence (text.map ofChar)).isUsable = true := by
  have hchars : ∀ text : Text, patternsKeepModes (text.map ofChar) = true ∧
      patternsNeedTables (text.map ofChar) = false ∧ patternsDepth (text.map ofChar) = 0 := by
    intro text
    induction text with
    | nil => exact ⟨rfl, rfl, rfl⟩
    | cons c text ih =>
        simpa [patternsKeepModes, patternsNeedTables, patternsDepth, ofChar, keepsModes,
          needsTables, depth] using ih
  match text with
  | [] => rfl
  | [_] => rfl
  | c :: next :: text =>
      obtain ⟨hkeeps, hneeds, hdepth⟩ := hchars (c :: next :: text)
      refine (@isUsable_iff (.sequence ((c :: next :: text).map ofChar)) hkeeps).mpr ⟨?_, hneeds⟩
      rw [depth, hdepth]
      decide

end Pattern

/-! ## Patterns in log filters -/

namespace LogFilter

/-- A value that is a pattern can be run. -/
def FieldValue.IsRunnable (v : FieldValue) : Prop :=
  ∀ text, v = .pattern text → ∃ pattern, Pattern.read? text = some pattern ∧ pattern.isUsable = true

/-- The value that a directive asks for can be run, if it is a pattern. -/
def Directive.IsRunnable (d : Directive) : Prop := ∀ f ∈ d.field, ∀ v ∈ f.value, v.IsRunnable

theorem FieldValue.number?_ne_pattern {text written : Text} :
    number? text ≠ some (.pattern written) := by
  intro h
  simp only [number?, Option.bind_eq_bind, Option.orElse_eq_orElse, Option.orElse_eq_or,
    Option.or_eq_some_iff, Option.bind_eq_some_iff, Option.map_eq_some_iff] at h
  rcases h with ⟨n, -, hn⟩ | ⟨-, x, -, hx⟩
  · split at hn
    next => simp at hn
    next => split at hn <;> simp at hn
  · split at hx <;> simp at hx

theorem FieldValue.isRunnable_of_ofText? {text : Text} {v : FieldValue}
    (h : ofText? text = some v) : v.IsRunnable := by
  rintro written rfl
  rw [ofText?] at h
  split at h
  next => simp at h
  split at h
  next => simp at h
  split at h
  next value hnumber =>
    obtain rfl := Option.some.inj h
    exact absurd hnumber number?_ne_pattern
  next =>
    split at h
    next husable =>
      obtain rfl := FieldValue.pattern.inj (Option.some.inj h)
      exact (Option.any_eq_true _ _).mp husable
    next => simp at h

theorem Field.isRunnable_of_ofText? {text : Text} {f : Field} (h : ofText? text = some f) :
    ∀ v ∈ f.value, v.IsRunnable := by
  rw [ofText?] at h
  split at h
  next => simp at h
  dsimp only at h
  split at h
  next =>
    obtain rfl := Option.some.inj h
    exact fun v hv => absurd hv (Option.not_mem_none v)
  next =>
    obtain ⟨value, hvalue, hf⟩ := Option.bind_eq_some_iff.mp h
    obtain rfl := Option.some.inj hf
    intro v hv
    obtain rfl := Option.some.inj hv
    exact FieldValue.isRunnable_of_ofText? hvalue

/-- A part that ends sets no field. -/
theorem field_of_finish? {written : Text} {d d' : Directive} {start : Nat} {place : Place}
    (h : finish? written d start place = some d') : d'.field = d.field := by
  cases place with
  | word =>
      obtain ⟨word, -, hword⟩ := Option.bind_eq_some_iff.mp h
      split at hword
      next =>
        obtain rfl := Option.some.inj hword
        rfl
      next =>
        obtain rfl := Option.some.inj hword
        rfl
  | level =>
      obtain ⟨word, -, hword⟩ := Option.bind_eq_some_iff.mp h
      split at hword
      next =>
        obtain rfl := Option.some.inj hword
        rfl
      next =>
        obtain ⟨level, -, rfl⟩ := Option.map_eq_some_iff.mp hword
        rfl
  | afterSpan =>
      obtain rfl := Option.some.inj h
      rfl
  | start | span | field | afterField => simp [finish?] at h

/-- The field of a directive that is read is the one that was there, or one that
has been read. -/
theorem field_of_scan? {written : Text} {d d' : Directive} {place : Place} {start stop : Nat}
    {text : Text} (h : scan? written d place start stop text = some d') :
    d'.field = d.field ∨ ∃ part field, Field.ofText? part = some field ∧ d'.field = some field := by
  fun_induction scan? written d place start stop text with
  | case1 => exact .inl (field_of_finish? h)
  | case13 d start stop rest field hread next ih =>
      obtain ⟨part, -, hpart⟩ := Option.bind_eq_some_iff.mp hread
      refine .inr ?_
      rcases ih h with hfield | hfield
      · exact ⟨part, field, hpart, hfield⟩
      · exact hfield
  -- Every other step refuses the text or goes on with the same field.
  | _ => first | exact absurd h (Option.some_ne_none _).symm | (rename_i ih; exact ih h)

theorem Directive.isRunnable_of_ofText? {text : Text} {d : Directive} (h : ofText? text = some d) :
    d.IsRunnable := by
  intro f hf
  rcases field_of_scan? h with hnone | ⟨part, field, hread, hfield⟩
  · rw [hnone] at hf
    exact absurd hf (Option.not_mem_none f)
  · obtain rfl := Option.some.inj (hfield.symm.trans hf)
    exact Field.isRunnable_of_ofText? hread

theorem exists_of_mem_of_mapM {α β : Type} {read? : α → Option β} {texts : List α}
    {items : List β} (h : texts.mapM read? = some items) {item : β} (hitem : item ∈ items) :
    ∃ text ∈ texts, read? text = some item := by
  induction texts generalizing items with
  | nil =>
      obtain rfl : [] = items := by simpa using h
      exact absurd hitem List.not_mem_nil
  | cons text texts ih =>
      rw [List.mapM_cons] at h
      obtain ⟨first, hfirst, h⟩ := Option.bind_eq_some_iff.mp h
      obtain ⟨rest, hrest, h⟩ := Option.bind_eq_some_iff.mp h
      obtain rfl := Option.some.inj h
      rcases List.mem_cons.mp hitem with rfl | hmem
      · exact ⟨text, List.mem_cons_self, hfirst⟩
      · obtain ⟨other, hother, hread⟩ := ih hrest hmem
        exact ⟨other, List.mem_cons_of_mem _ hother, hread⟩

/-- Whatever the variable is, every pattern in the filter can be run. -/
theorem isRunnable_ofVariable (value : Option Text) :
    ∀ d ∈ (ofVariable value).statics ++ (ofVariable value).dynamics, d.IsRunnable := by
  cases h : value >>= ofText? with
  | none =>
      rw [ofVariable, h]
      intro d hd f hf
      obtain rfl := List.mem_singleton.mp (mem_of_mem_ofDirectives hd)
      exact absurd hf (Option.not_mem_none f)
  | some filter =>
      obtain ⟨text, -, hfilter⟩ := Option.bind_eq_some_iff.mp h
      obtain ⟨directives, hread, rfl⟩ := Option.map_eq_some_iff.mp hfilter
      rw [ofVariable, h]
      intro d hd
      obtain ⟨piece, -, hpiece⟩ := exists_of_mem_of_mapM hread (mem_of_mem_ofDirectives hd)
      exact Directive.isRunnable_of_ofText? hpiece

/-- A text without signs that is no other value is read as the pattern that it
is. -/
theorem FieldValue.ofText?_of_plain {text : Text} (htrue : text ≠ "true".toList)
    (hfalse : text ≠ "false".toList) (hnumber : number? text = none)
    (hplain : ∀ c ∈ text, c ∉ Pattern.signs) : ofText? text = some (.pattern text) := by
  rw [ofText?, if_neg htrue, if_neg hfalse, hnumber]
  simp [Pattern.read?_of_plain hplain, Pattern.isUsable_of_chars]

/-- So a directive that asks for such a text is read back. -/
theorem Field.isReadable_of_plain {name text : Text} (hname : '=' ∉ name) (htext : '=' ∉ text)
    (hread : FieldValue.ofText? text = some (.pattern text)) :
    Field.IsReadable ⟨name, some (.pattern text)⟩ where
  name := hname
  named := fun h => absurd h (by simp)
  value v hv := by
    obtain rfl := Option.some.inj hv
    exact ⟨htext, hread⟩

end LogFilter

end FilterQuery
