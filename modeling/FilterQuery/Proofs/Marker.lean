import FilterQuery.Builder
import FilterQuery.Proofs.Pieces
import FilterQuery.Validation
/-!
# The marker as a lexeme

The marker is a word like others. Taking it off a text that begins with it as a
word leaves the other lexemes; a text whose first lexeme does not begin with it
stays as it is.
-/

namespace FilterQuery

open Text

theorem isBareword_marker : IsBareword marker := by decide

/-- The lexemes that a query begins with because of its options. -/
def Options.lead (options : Options) : List Content :=
  if options.marked then [(.word, marker)] else []

theorem Options.lead_of_marked {options : Options} (h : options.marked = true) :
    options.lead = [(.word, marker)] := by simp [lead, h]

theorem Options.lead_of_unmarked {options : Options} (h : options.marked = false) :
    options.lead = [] := by simp [lead, h]

theorem Options.eq_of_mem_lead {options : Options} {content : Content}
    (h : content ∈ options.lead) : content = (.word, marker) := by
  unfold lead at h
  split at h
  next => exact List.mem_singleton.mp h
  next => exact absurd h List.not_mem_nil

theorem Builder.text_ofOptions (options : Options) :
    (ofOptions options).text = if options.marked then markerAndSpace else [] := by
  cases h : options.marked <;> simp [ofOptions, h, push]

theorem Builder.isPiece_ofOptions (options : Options) :
    IsPiece (ofOptions options).text options.lead := by
  rw [text_ofOptions]
  cases h : options.marked with
  | false =>
      rw [Options.lead_of_unmarked h]
      exact .nil
  | true =>
      rw [Options.lead_of_marked h]
      exact isBareword_marker.isPiece

theorem Builder.isFlush_ofOptions (options : Options) : IsFlush (ofOptions options).text := by
  rw [text_ofOptions]
  split
  next =>
    intro c hc
    obtain rfl : 'F' = c := Option.some.inj hc
    decide
  next => exact isFlush_nil

/-! ## Taking the marker off -/

theorem stripMarker_marker_append (rest : Text) :
    stripMarker (marker ++ rest) = rest.trimStart := by
  rw [stripMarker, stripStart?_eq_some_iff.mpr rfl]

theorem stripMarker_eq_self {text : Text} (h : ¬ marker <+: text) :
    stripMarker text = text := by
  cases hstrip : stripStart? marker text with
  | none => rw [stripMarker, hstrip]
  | some rest => exact absurd ⟨rest, (stripStart?_eq_some_iff.mp hstrip).symm⟩ h

theorem stripMarker_suffix (text : Text) : stripMarker text <:+ text := by
  by_cases h : marker <+: text
  · obtain ⟨rest, rfl⟩ := h
    rw [stripMarker_marker_append]
    exact (List.dropWhile_suffix isBlank).trans (List.suffix_append marker rest)
  · rw [stripMarker_eq_self h]

theorem isFlush_stripMarker {text : Text} (h : IsFlush text) : IsFlush (stripMarker text) := by
  by_cases hmarker : marker <+: text
  · obtain ⟨rest, rfl⟩ := hmarker
    rw [stripMarker_marker_append]
    exact isFlush_trimStart rest
  · rwa [stripMarker_eq_self hmarker]

/-- Trimming stops at the marker. -/
theorem trim_marker_append (rest : Text) : trim (marker ++ rest) = marker ++ rest.trimEnd := by
  have hflush : IsFlush (marker ++ rest) := isFlush_cons.mpr (by decide)
  have hlast : ∀ c ∈ marker.getLast?, isBlank c = false := by
    intro c hc
    obtain rfl : '=' = c := Option.some.inj hc
    decide
  rw [trim, hflush.trimStart_eq, trimEnd_append_right hlast]

/-- What is checked of a text that begins with the marker is what follows it. -/
theorem queryBody_marker_append (rest : Text) : queryBody (marker ++ rest) = rest.trim := by
  rw [queryBody, trim_marker_append, stripMarker_marker_append, trimStart_trimEnd]

/-! ## The marker among the lexemes -/

/-- The first lexeme does not begin with the marker. -/
def Unmarked (read : List Content) : Prop := ∀ content ∈ read.head?, ¬ marker <+: content.2

theorem unmarked_cons {content : Content} {read : List Content} :
    Unmarked (content :: read) ↔ ¬ marker <+: content.2 := by
  simp [Unmarked]

theorem Unmarked.append {left right : List Content} (hleft : Unmarked left)
    (hright : Unmarked right) : Unmarked (left ++ right) := by
  cases left with
  | nil => exact hright
  | cons content left => exact unmarked_cons.mpr (unmarked_cons.mp hleft)

theorem unmarked_flatMap {α : Type} {f : α → List Content} {parts : List α}
    (h : ∀ part ∈ parts, Unmarked (f part)) : Unmarked (parts.flatMap f) := by
  induction parts with
  | nil => simp [Unmarked]
  | cons part parts ih =>
      obtain ⟨hpart, hparts⟩ := List.forall_mem_cons.mp h
      rw [List.flatMap_cons]
      exact hpart.append (ih hparts)

/-- A text that begins with the marker has a first lexeme that does. -/
theorem not_marker_prefix_of_unmarked {text : Text} (h : Unmarked (contents text)) :
    ¬ marker <+: text := by
  -- The lexeme at the front is a word, and it runs at least to the end of the marker.
  rintro ⟨rest, rfl⟩
  have hword : readLexeme 'F' ("ilters=".toList ++ rest) =
      readWord 'F' ("ilters=".toList ++ rest) :=
    readLexeme_word (fun heq => absurd heq (by decide)) (by rintro (_ | _) <;> decide)
      (by rintro (_ | _) <;> simp [Connective.literal])
  have hsplit : marker ++ rest = 'F' :: ("ilters=".toList ++ rest) := rfl
  have htake : ("ilters=".toList ++ rest).takeWhile isWordChar =
      "ilters=".toList ++ rest.takeWhile isWordChar :=
    List.takeWhile_append_of_pos (List.all_eq_true.mp (by decide))
  rw [Unmarked, hsplit, contents_cons (by decide), hword, readWord, htake] at h
  exact h _ rfl ⟨rest.takeWhile isWordChar, rfl⟩

/-- A flush text whose first lexeme is the marker begins with it. -/
theorem eq_marker_append {text : Text} {read : List Content} (hflush : IsFlush text)
    (h : contents text = (.word, marker) :: read) :
    ∃ rest, text = marker ++ rest ∧ contents rest = read := by
  cases text with
  | nil => simp at h
  | cons c rest =>
      rw [contents_cons (isFlush_cons.mp hflush)] at h
      obtain ⟨hfirst, hread⟩ := List.cons.inj h
      refine ⟨(readLexeme c rest).after, ?_, hread⟩
      rw [← (Prod.mk.inj hfirst).2, readLexeme_append]

/-- Taking the marker off takes its lexeme off. -/
theorem contents_stripMarker {options : Options} {text : Text} {read : List Content}
    (hflush : options.marked = true → IsFlush text) (h : contents text = options.lead ++ read)
    (hread : Unmarked read) : contents (stripMarker text) = read := by
  cases hmarked : options.marked with
  | false =>
      rw [Options.lead_of_unmarked hmarked, List.nil_append] at h
      have hunmarked : Unmarked (contents text) := by rwa [h]
      rwa [stripMarker_eq_self (not_marker_prefix_of_unmarked hunmarked)]
  | true =>
      rw [Options.lead_of_marked hmarked, List.singleton_append] at h
      obtain ⟨rest, rfl, hrest⟩ := eq_marker_append (hflush hmarked) h
      rw [stripMarker_marker_append, contents_trimStart, hrest]

theorem IsPiece.stripMarker {options : Options} {text : Text} {read : List Content}
    (h : IsPiece text (options.lead ++ read)) (hflush : options.marked = true → IsFlush text)
    (hread : Unmarked read) : IsPiece (stripMarker text) read :=
  h.of_suffix (stripMarker_suffix text) (contents_stripMarker hflush h.contents_eq hread)
    (List.subset_append_right _ _)

/-- The lexemes of a query that are checked are those after the marker. -/
theorem contents_queryBody {options : Options} {text : Text} {read : List Content}
    (h : contents text = options.lead ++ read) (hread : Unmarked read) :
    contents (queryBody text) = read :=
  contents_stripMarker (fun _ => isFlush_trim text) ((contents_trim text).trans h) hread

end FilterQuery
