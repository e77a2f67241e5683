import FilterQuery.Proofs.Transparency
/-!
# Taking over a marked builder

What a builder is taken over with, as a group or as text, is its text without the
marker. Of twins that is the same text as a group, for a group is trimmed; as
text it is the same but for white space at the front, which the marker takes with
it and a text without the marker keeps.
-/

namespace FilterQuery.Builder

open Text

/-- A builder is taken over as a group for what its group is. -/
theorem concat_congr {left right : Builder} (h : left.group = right.group) (b : Builder)
    (joiner : Option Connective) : b.concat left joiner = b.concat right joiner := by
  simp only [concat, h]

namespace IsTwin

variable {marked plain : Builder}

/-- The marker takes the white space after it along. -/
theorem stripMarker_text (h : IsTwin marked plain) :
    stripMarker marked.text = plain.text.trimStart := by
  obtain ⟨body, htext, hbody⟩ := h.exists_body
  have hspace : allBlank [' '] = true := by decide
  rw [htext, markerAndSpace, List.append_assoc, stripMarker_marker_append,
    trimStart_blank_append hspace, hbody]

theorem queryBody_text (h : IsTwin marked plain) : queryBody marked.text = plain.text.trim := by
  obtain ⟨body, htext, hbody⟩ := h.exists_body
  have hspace : allBlank [' '] = true := by decide
  rw [htext, markerAndSpace, List.append_assoc, queryBody_marker_append, trim,
    trimStart_blank_append hspace, hbody, trim]

theorem group_eq (h : IsTwin marked plain) (hmarker : ¬ marker <+: plain.text.trim) :
    marked.group = plain.group := by
  have hbody : stripMarker marked.text.trim = plain.text.trim := h.queryBody_text
  rw [group, group, hbody, stripMarker_eq_self hmarker]

theorem merge_eq (h : IsTwin marked plain) (hmarker : ¬ marker <+: plain.text.trim)
    (hflush : IsFlush plain.text) (b : Builder) (joiner : Option Connective) :
    b.merge marked joiner = b.merge plain joiner := by
  -- A marker at the front of the flush text would be at the front of the trimmed one.
  have htext : ¬ marker <+: plain.text := by
    rintro ⟨rest, htext⟩
    refine hmarker ⟨trimEnd rest, ?_⟩
    rw [← htext, trim_marker_append]
  refine append_congr ?_ b joiner
  rw [h.stripMarker_text, hflush.trimStart_eq, stripMarker_eq_self htext]

end IsTwin

/-- Two builders that have had the same calls, one made with the marker and one
without, are taken over alike: as groups always, and as text unless the one
without the marker begins with white space. Only what the calls have written must
not itself begin with a marker. -/
theorem takeOver_runAll_eq (program : List Call) (markedEncoded plainEncoded : Bool)
    (hmarker : ¬ marker <+: ((ofOptions ⟨plainEncoded, false⟩).runAll program).text.trim)
    (b : Builder) (joiner : Option Connective) :
    b.concat ((ofOptions ⟨markedEncoded, true⟩).runAll program) joiner =
        b.concat ((ofOptions ⟨plainEncoded, false⟩).runAll program) joiner ∧
      (IsFlush ((ofOptions ⟨plainEncoded, false⟩).runAll program).text →
        b.merge ((ofOptions ⟨markedEncoded, true⟩).runAll program) joiner =
          b.merge ((ofOptions ⟨plainEncoded, false⟩).runAll program) joiner) := by
  have htwin := (IsTwin.ofOptions markedEncoded plainEncoded).runAll program
  exact ⟨concat_congr (htwin.group_eq hmarker) b joiner,
    fun hflush => htwin.merge_eq hmarker hflush b joiner⟩

/-- A connective at the front takes the place of the space after the marker, so
the texts begin differently; a string that is the marker is no marker. -/
theorem takeOver_leading_connective :
    ((ofOptions ⟨true, true⟩).paren .opening).concat
        ((ofOptions ⟨true, true⟩).runAll
          [.connective .or, .append "Filters= \u3000A == 1\t".toList (some .and)]) (some .and) =
      ((ofOptions ⟨true, true⟩).paren .opening).concat
        ((ofOptions ⟨false, false⟩).runAll
          [.connective .or, .append "Filters= \u3000A == 1\t".toList (some .and)]) (some .and) ∧
    ((ofOptions ⟨true, true⟩).connective .or).merge
        ((ofOptions ⟨false, true⟩).runAll
          [.op "A".toList .equals (some (.string marker)) false, .connective .and]) (some .and) =
      ((ofOptions ⟨true, true⟩).connective .or).merge
        ((ofOptions ⟨false, false⟩).runAll
          [.op "A".toList .equals (some (.string marker)) false, .connective .and])
        (some .and) := by
  refine ⟨(takeOver_runAll_eq _ true false ?_ _ _).1, (takeOver_runAll_eq _ false false ?_ _ _).2 ?_⟩
  · decide +kernel
  · decide +kernel
  · exact isFlush_cons.mpr (by decide)

end FilterQuery.Builder
