import FilterQuery.Marker
import Mathlib.Data.List.DropRight
import Mathlib.Data.List.Infix
/-!
# Trimming

What trimming takes off is white space, and what it leaves begins or ends with
another character. A text that begins with no white space is called flush.
-/

namespace FilterQuery.Text

theorem allBlank_iff {text : Text} : text.allBlank = true ↔ ∀ c ∈ text, isBlank c = true :=
  List.all_eq_true

theorem trimEnd_eq_rdropWhile (text : Text) : text.trimEnd = text.rdropWhile isBlank := rfl

theorem trimStart_eq_nil_iff {text : Text} : text.trimStart = [] ↔ text.allBlank = true := by
  rw [trimStart, allBlank_iff, List.dropWhile_eq_nil_iff]

theorem trimEnd_eq_nil_iff {text : Text} : text.trimEnd = [] ↔ text.allBlank = true := by
  rw [trimEnd_eq_rdropWhile, allBlank_iff, List.rdropWhile_eq_nil_iff]

theorem exists_append_trimStart (text : Text) :
    ∃ gap, allBlank gap = true ∧ text = gap ++ text.trimStart := by
  refine ⟨text.takeWhile isBlank, ?_, (takeWhile_append_trimStart text).symm⟩
  rw [allBlank_iff]
  exact fun c hc => List.mem_takeWhile_imp hc

theorem exists_trimEnd_append (text : Text) :
    ∃ gap, allBlank gap = true ∧ text = text.trimEnd ++ gap := by
  refine ⟨text.rtakeWhile isBlank, ?_, List.rdropWhile_append_rtakeWhile.symm⟩
  rw [allBlank_iff]
  exact fun c hc => List.mem_rtakeWhile_imp hc

theorem trimEnd_isPrefix (text : Text) : text.trimEnd <+: text := by
  obtain ⟨gap, -, htext⟩ := exists_trimEnd_append text
  exact ⟨gap, htext.symm⟩

/-! ## Trimming a text in two parts -/

theorem trimStart_blank_append {gap : Text} (h : gap.allBlank = true) (text : Text) :
    trimStart (gap ++ text) = text.trimStart :=
  List.dropWhile_append_of_pos (allBlank_iff.mp h)

theorem trimStart_append {text : Text} (h : text.allBlank = false) (rest : Text) :
    trimStart (text ++ rest) = text.trimStart ++ rest := by
  have hne : text.trimStart ≠ [] := by
    rw [Ne, trimStart_eq_nil_iff, h]
    exact Bool.false_ne_true
  rw [trimStart, List.dropWhile_append, if_neg (by simpa [trimStart] using hne)]
  rfl

theorem reverse_trimEnd (text : Text) : text.trimEnd.reverse = trimStart text.reverse := by
  rw [trimEnd, List.reverse_reverse]
  rfl

theorem allBlank_reverse (text : Text) : allBlank text.reverse = text.allBlank := by
  simp [allBlank]

theorem trimEnd_append_blank {gap : Text} (h : gap.allBlank = true) (text : Text) :
    trimEnd (text ++ gap) = text.trimEnd := by
  apply List.reverse_injective
  rw [reverse_trimEnd, reverse_trimEnd, List.reverse_append,
    trimStart_blank_append (by rwa [allBlank_reverse])]

theorem trimEnd_append {rest : Text} (h : rest.allBlank = false) (text : Text) :
    trimEnd (text ++ rest) = text ++ rest.trimEnd := by
  apply List.reverse_injective
  rw [reverse_trimEnd, List.reverse_append, List.reverse_append, reverse_trimEnd,
    trimStart_append (by rwa [allBlank_reverse])]

theorem getLast?_trimEnd {text : Text} : ∀ c ∈ text.trimEnd.getLast?, isBlank c = false := by
  intro c hc
  have h := List.head?_dropWhile_not isBlank text.reverse
  rw [trimEnd, Option.mem_def, List.getLast?_reverse] at hc
  simpa [hc] using h

theorem trimEnd_eq_self {text : Text} (h : ∀ c ∈ text.getLast?, isBlank c = false) :
    text.trimEnd = text := by
  rw [trimEnd_eq_rdropWhile, List.rdropWhile_eq_self_iff]
  intro hne
  simp [h _ (List.getLast?_eq_some_getLast hne)]

/-- Trimming a text at its end stops at a part that does not end with white
space. -/
theorem trimEnd_append_right {text : Text} (h : ∀ c ∈ text.getLast?, isBlank c = false)
    (rest : Text) : trimEnd (text ++ rest) = text ++ rest.trimEnd := by
  cases hblank : rest.allBlank with
  | true =>
      have htext : text.trimEnd = text := trimEnd_eq_self h
      rw [trimEnd_append_blank hblank, htext, trimEnd_eq_nil_iff.mpr hblank, List.append_nil]
  | false => exact trimEnd_append hblank text

/-- What does not end with white space is not reached by trimming. -/
theorem prefix_trimEnd {front text : Text} (hlast : ∀ c ∈ front.getLast?, isBlank c = false)
    (hfront : front <+: text) : front <+: text.trimEnd := by
  obtain ⟨more, rfl⟩ := hfront
  rw [trimEnd_append_right hlast]
  exact List.prefix_append _ _

/-- Nor is what stands in a text and does not end with white space. -/
theorem infix_trimEnd {part text : Text} (hlast : ∀ c ∈ part.getLast?, isBlank c = false)
    (hpart : part <:+: text) : part <:+: text.trimEnd := by
  by_cases hne : part = []
  · subst hne
    exact List.nil_infix
  · obtain ⟨front, more, rfl⟩ := hpart
    have hfront : ∀ c ∈ (front ++ part).getLast?, isBlank c = false := by
      rwa [List.getLast?_append_of_ne_nil front hne]
    exact (List.suffix_append front part).isInfix.trans
      (prefix_trimEnd hfront (List.prefix_append _ more)).isInfix

/-! ## Flush texts -/

/-- Whether a text does not begin with white space. -/
def IsFlush (text : Text) : Prop := ∀ c ∈ text.head?, isBlank c = false

theorem isFlush_nil : IsFlush [] := by simp [IsFlush]

theorem isFlush_cons {c : Char} {rest : Text} : IsFlush (c :: rest) ↔ isBlank c = false := by
  simp [IsFlush]

theorem isFlush_trimStart (text : Text) : IsFlush text.trimStart := by
  intro c hc
  have h := List.head?_dropWhile_not isBlank text
  rw [trimStart, Option.mem_def] at hc
  simpa [hc] using h

theorem IsFlush.trimStart_eq {text : Text} (h : IsFlush text) : text.trimStart = text := by
  cases text with
  | nil => rfl
  | cons c rest => simp [trimStart, isFlush_cons.mp h]

theorem allBlank_trimStart (text : Text) : text.trimStart.allBlank = text.allBlank := by
  rw [Bool.eq_iff_iff, ← trimStart_eq_nil_iff, (isFlush_trimStart text).trimStart_eq,
    trimStart_eq_nil_iff]

theorem IsFlush.append {left right : Text} (hleft : IsFlush left) (hright : IsFlush right) :
    IsFlush (left ++ right) := by
  cases left with
  | nil => exact hright
  | cons c rest => exact isFlush_cons.mpr (isFlush_cons.mp hleft)

theorem IsFlush.append_right {left : Text} (h : IsFlush left) (hne : left ≠ []) (right : Text) :
    IsFlush (left ++ right) := by
  cases left with
  | nil => exact absurd rfl hne
  | cons c left => exact isFlush_cons.mpr (isFlush_cons.mp h)

theorem IsFlush.of_isPrefix {front text : Text} (h : IsFlush text) (hfront : front <+: text) :
    IsFlush front := by
  intro c hc
  obtain ⟨more, rfl⟩ := hfront
  exact h c (List.mem_head?_append_of_mem_head? hc)

theorem IsFlush.trimEnd {text : Text} (h : IsFlush text) : IsFlush text.trimEnd :=
  h.of_isPrefix (trimEnd_isPrefix text)

theorem IsFlush.trimEnd_append {text : Text} (h : IsFlush text) (hblank : text.allBlank = false)
    (more : Text) : IsFlush (text.trimEnd ++ more) := by
  refine h.trimEnd.append_right ?_ more
  rw [Ne, trimEnd_eq_nil_iff, hblank]
  exact Bool.false_ne_true

/-- It does not matter which end is trimmed first. -/
theorem trimStart_trimEnd (text : Text) : text.trimEnd.trimStart = text.trim := by
  by_cases hblank : text.allBlank = true
  · rw [trim, trimEnd_eq_nil_iff.mpr hblank, trimStart_eq_nil_iff.mpr hblank]
    rfl
  · have hrest : text.trimStart.allBlank = false := by
      rw [allBlank_trimStart, Bool.eq_false_iff]
      exact hblank
    obtain ⟨gap, hgap, htext⟩ := exists_append_trimStart text
    conv_lhs => rw [htext, trimEnd_append hrest, trimStart_blank_append hgap]
    exact (isFlush_trimStart text).trimEnd.trimStart_eq

theorem isFlush_trim (text : Text) : IsFlush text.trim := (isFlush_trimStart text).trimEnd

theorem trim_eq_nil_iff {text : Text} : text.trim = [] ↔ text.allBlank = true := by
  rw [trim, trimEnd_eq_nil_iff, allBlank_trimStart]

theorem allBlank_congr {left right : Text} (h : left.trimStart = right.trimStart) :
    left.allBlank = right.allBlank := by
  rw [← allBlank_trimStart left, h, allBlank_trimStart]

/-- Texts that differ in leading white space at most still do when the same text
is written after both. -/
theorem trimStart_append_congr {left right : Text} (h : left.trimStart = right.trimStart)
    (more : Text) : trimStart (left ++ more) = trimStart (right ++ more) := by
  have hblanks := allBlank_congr h
  cases hblank : right.allBlank with
  | true =>
      rw [trimStart_blank_append (hblanks.trans hblank), trimStart_blank_append hblank]
  | false => rw [trimStart_append (hblanks.trans hblank), trimStart_append hblank, h]

/-- Trimming leaves what ends a text but for white space. -/
theorem getLast?_trim {text : Text} (h : text.allBlank = false) :
    text.trim.getLast? = text.trimEnd.getLast? := by
  obtain ⟨gap, -, htext⟩ := exists_append_trimStart text.trimEnd
  rw [trimStart_trimEnd] at htext
  have hne : text.trim ≠ [] := by
    rw [Ne, trim_eq_nil_iff, h]
    exact Bool.false_ne_true
  rw [htext, List.getLast?_append_of_ne_nil gap hne]

theorem trimStart_trimEnd_congr {left right : Text} (h : left.trimStart = right.trimStart) :
    trimStart left.trimEnd = trimStart right.trimEnd := by
  rw [trimStart_trimEnd, trimStart_trimEnd, trim, trim, h]

end FilterQuery.Text
