import FilterQuery.Json.Grammar
import FilterQuery.Json.Writer
import Mathlib.Data.List.Basic
/-!
# What is written is JSON

With white space between the parts of a datum or without, what is written of it
is JSON for it. In strings a character is escaped exactly if it has to be.
-/

namespace FilterQuery.Json

/-! ## Strings -/

theorem digitValue?_lowerHexDigit {n : Nat} (h : n < 16) :
    digitValue? (lowerHexDigit n) = some n := by
  revert n
  decide

theorem denotesChar_writeChar (c : Char) : DenotesChar (writeChar c) c := by
  have hcontrol : ∀ {c : Char}, c.toNat < 0x20 → IsEscaped c := fun h => .inr (.inr h)
  unfold writeChar
  split
  next h =>
    rcases h with rfl | rfl
    · exact .letter (.inl rfl) rfl
    · exact .letter (.inr (.inl rfl)) rfl
  next hquote =>
    split
    next h => exact h ▸ .letter (hcontrol (by decide)) rfl
    split
    next h => exact h ▸ .letter (hcontrol (by decide)) rfl
    split
    next h => exact h ▸ .letter (hcontrol (by decide)) rfl
    split
    next h => exact h ▸ .letter (hcontrol (by decide)) rfl
    split
    next h => exact h ▸ .letter (hcontrol (by decide)) rfl
    split
    next h =>
      exact .digits (hcontrol h) (digitValue?_lowerHexDigit (by omega))
        (digitValue?_lowerHexDigit (by omega)) (by omega)
    next h => exact .plain fun hescaped => hescaped.elim (hquote ∘ .inl) fun hescaped =>
        hescaped.elim (hquote ∘ .inr) h

theorem denotesString_flatMap_writeChar (value : Text) :
    DenotesString (value.flatMap writeChar) value := by
  induction value with
  | nil => exact .nil
  | cons c value ih => exact .cons (denotesChar_writeChar c) ih

/-! ## White space -/

/-- Nothing but white space is put between the parts of a text. -/
structure Spacing.IsBlank (s : Spacing) : Prop where
  lineStart : ∀ depth, IsGap (s.lineStart depth)
  afterColon : IsGap s.afterColon

theorem isGap_nil : IsGap [] := fun _ hc => absurd hc List.not_mem_nil

theorem Spacing.isBlank_compact : Spacing.compact.IsBlank where
  lineStart _ := isGap_nil
  afterColon := isGap_nil

theorem Spacing.isBlank_pretty : Spacing.pretty.IsBlank where
  lineStart depth c hc := by
    rcases List.mem_cons.mp hc with rfl | hc
    · decide
    · rw [List.eq_of_mem_replicate hc]
      decide
  afterColon c hc := by
    rw [List.mem_singleton.mp hc]
    decide

/-! ## Data -/

section

variable (s : Spacing) (depth : Nat)

/-- An item as it is written on a line of its own. -/
def writtenItem (item : Datum) : Item := ⟨s.lineStart depth, writeAt s depth item, item, []⟩

/-- A field as it is written on a line of its own. -/
def writtenField (field : Text × Datum) : Field :=
  ⟨s.lineStart depth, field.1.flatMap writeChar, field.1, [],
    ⟨s.afterColon, writeAt s depth field.2, field.2, []⟩⟩

theorem joined_writtenItems (item : Datum) (items : List Datum) :
    Text.joined [','] (((item :: items).map (writtenItem s depth)).map Item.text) =
      s.lineStart depth ++ (writeAt s depth item ++ writeItems s depth items) := by
  induction items generalizing item with
  | nil => simp [Text.joined, writtenItem, Item.text, writeItems]
  | cons next items ih =>
      have hnext := ih next
      simp only [List.map_cons] at hnext ⊢
      rw [Text.joined, hnext]
      simp [writtenItem, Item.text, writeItems]

theorem joined_writtenFields (field : Text × Datum) (fields : List (Text × Datum)) :
    Text.joined [','] (((field :: fields).map (writtenField s depth)).map Field.text) =
      s.lineStart depth ++ (writeString field.1 ++ ':' ::
        (s.afterColon ++ (writeAt s depth field.2 ++ writeFields s depth fields))) := by
  induction fields generalizing field with
  | nil => simp [Text.joined, writtenField, Field.text, Item.text, writeFields, writeString]
  | cons next fields ih =>
      have hnext := ih next
      simp only [List.map_cons] at hnext ⊢
      rw [Text.joined, hnext]
      simp [writtenField, Field.text, Item.text, writeFields, writeString]

end

section

variable {s : Spacing} (hs : s.IsBlank)
include hs

theorem isSpaced_writtenItem (depth : Nat) (item : Datum) : (writtenItem s depth item).IsSpaced :=
  ⟨hs.lineStart depth, isGap_nil⟩

theorem isSpaced_writtenField (depth : Nat) (field : Text × Datum) :
    (writtenField s depth field).IsSpaced :=
  ⟨hs.lineStart depth, isGap_nil, hs.afterColon, isGap_nil⟩

theorem denotes_writeAt_list {items : List Datum} {depth : Nat}
    (h : ∀ item ∈ items, Denotes (writeAt s (depth + 1) item) item) :
    Denotes (writeAt s depth (.list items)) (.list items) := by
  cases items with
  | nil => exact @Denotes.list [] [] isGap_nil (by simp) (by simp)
  | cons item items =>
      have hdenotes := @Denotes.list ((item :: items).map (writtenItem s (depth + 1)))
        (s.lineStart depth) (hs.lineStart depth)
        (List.forall_mem_map.mpr fun item _ => isSpaced_writtenItem hs (depth + 1) item)
        (List.forall_mem_map.mpr h)
      have hdata : (Item.datum ∘ writtenItem s (depth + 1)) = id := rfl
      rw [joined_writtenItems, List.map_map, hdata, List.map_id] at hdenotes
      simpa [writeAt] using hdenotes

theorem denotes_writeAt_record {fields : List (Text × Datum)} {depth : Nat}
    (h : ∀ field ∈ fields, Denotes (writeAt s (depth + 1) field.2) field.2) :
    Denotes (writeAt s depth (.record fields)) (.record fields) := by
  cases fields with
  | nil => exact @Denotes.record [] [] isGap_nil (by simp) (by simp) (by simp)
  | cons field fields =>
      have hdenotes := @Denotes.record ((field :: fields).map (writtenField s (depth + 1)))
        (s.lineStart depth) (hs.lineStart depth)
        (List.forall_mem_map.mpr fun field _ => isSpaced_writtenField hs (depth + 1) field)
        (List.forall_mem_map.mpr fun field _ => denotesString_flatMap_writeChar field.1)
        (List.forall_mem_map.mpr h)
      have hentries : (Field.entry ∘ writtenField s (depth + 1)) = id := rfl
      rw [joined_writtenFields, List.map_map, hentries, List.map_id] at hdenotes
      simpa [writeAt] using hdenotes

/-- What is written of a datum is JSON for it, at every depth. The induction is on
the datum, over the parts of lists and records. -/
theorem IsExact.denotes_writeAt {datum : Datum} (h : IsExact datum) (depth : Nat) :
    Denotes (writeAt s depth datum) datum := by
  induction h generalizing depth with
  | null => exact .null
  | boolean value => exact .boolean value
  | integer hvalue => exact .integer hvalue
  | text value => exact .text (denotesString_flatMap_writeChar value)
  | list _ ih => exact denotes_writeAt_list hs fun item hitem => ih item hitem (depth + 1)
  | record _ ih => exact denotes_writeAt_record hs fun field hfield => ih field hfield (depth + 1)

theorem isWriter_writeAt (depth : Nat) : IsWriter (writeAt s depth) :=
  fun _ h => h.denotes_writeAt hs depth

end

end FilterQuery.Json
