import FilterQuery.Proofs.Replay
/-!
# The marker is transparent

Two builders, one made with the marker and one without, are twins if they hold
the same query: after the marker their texts differ in leading white space at
most, because a connective that comes first takes the place of the space after
the marker. No call looks at more of a text than twins share, so every call keeps
twins, and twins are finished to the same query, the marker apart.
-/

namespace FilterQuery

open Text

theorem problems_eq_of_queryBody_eq {left right : Text} (h : queryBody left = queryBody right) :
    problems left = problems right := by
  simp only [problems, h]

namespace Builder

/-- A builder with the marker and one without it that hold the same query. -/
structure IsTwin (marked plain : Builder) : Prop where
  marked_eq : marked.options.marked = true
  plain_eq : plain.options.marked = false
  exists_body : ∃ body, marked.text = markerAndSpace ++ body ∧
    body.trimStart = plain.text.trimStart
  tokens_eq : marked.tokens = .raw marker :: plain.tokens

/-- The space after the marker may be trimmed with what follows it: another one
takes its place, and what is left is as if there had been no marker. -/
theorem exists_trimEnd_marked (body more : Text) :
    ∃ rest, trimEnd (markerAndSpace ++ body) ++ ' ' :: more = markerAndSpace ++ rest ∧
      rest.trimStart = trimStart (body.trimEnd ++ ' ' :: more) := by
  cases hblank : body.allBlank with
  | true =>
      have hmarker : trimEnd markerAndSpace = marker := by decide
      have hspace : allBlank [' '] = true := by decide
      refine ⟨more, ?_, ?_⟩
      · rw [trimEnd_append_blank hblank, hmarker]
        simp [markerAndSpace]
      · rw [trimEnd_eq_nil_iff.mpr hblank]
        exact (trimStart_blank_append hspace more).symm
  | false => exact ⟨body.trimEnd ++ ' ' :: more, by rw [trimEnd_append hblank]; simp, rfl⟩

namespace IsTwin

variable {marked plain : Builder}

theorem ofOptions (markedEncoded plainEncoded : Bool) :
    IsTwin (ofOptions ⟨markedEncoded, true⟩) (ofOptions ⟨plainEncoded, false⟩) :=
  ⟨rfl, rfl, ⟨[], rfl, rfl⟩, rfl⟩

/-! ## What a call looks at -/

theorem trim_body (h : IsTwin marked plain) : marked.body.trim = plain.body.trim := by
  obtain ⟨body, htext, hbody⟩ := h.exists_body
  have hmarked : marked.body = body := by
    rw [Builder.body, if_pos h.marked_eq, htext, stripStart?_eq_some_iff.mpr rfl]
    rfl
  have hplain : plain.body = plain.text := by simp [Builder.body, h.plain_eq]
  rw [hmarked, hplain, trim, trim, hbody]

theorem isEmpty_eq (h : IsTwin marked plain) : marked.isEmpty = plain.isEmpty := by
  rw [Bool.eq_iff_iff, isEmpty, isEmpty, ← trim_eq_nil_iff, ← trim_eq_nil_iff, h.trim_body]

/-! ## What a call does -/

theorem push (h : IsTwin marked plain) (piece : Text) (token : Token) :
    IsTwin (marked.push piece token) (plain.push piece token) := by
  obtain ⟨body, htext, hbody⟩ := h.exists_body
  refine ⟨h.marked_eq, h.plain_eq, ⟨body ++ piece, ?_, trimStart_append_congr hbody piece⟩, ?_⟩
  · simp [Builder.push, htext]
  · simp [Builder.push, h.tokens_eq]

/-- A piece that begins with a space may be written after trimming. -/
theorem push_trimmed (h : IsTwin marked plain) (piece : Text) :
    ∃ body, marked.text.trimEnd ++ ' ' :: piece = markerAndSpace ++ body ∧
      body.trimStart = trimStart (plain.text.trimEnd ++ ' ' :: piece) := by
  obtain ⟨body, htext, hbody⟩ := h.exists_body
  obtain ⟨rest, hrest, hfront⟩ := exists_trimEnd_marked body piece
  refine ⟨rest, by rw [htext, hrest], hfront.trans ?_⟩
  exact trimStart_append_congr (trimStart_trimEnd_congr hbody) _

theorem connective (h : IsTwin marked plain) (c : Connective) :
    IsTwin (marked.connective c) (plain.connective c) := by
  refine ⟨h.marked_eq, h.plain_eq, h.push_trimmed (c.literal ++ [' ']), ?_⟩
  simp [Builder.connective, Builder.push, trimmed, h.tokens_eq]

theorem spaced (h : IsTwin marked plain) : IsTwin marked.spaced plain.spaced :=
  ⟨h.marked_eq, h.plain_eq, h.push_trimmed [], h.tokens_eq⟩

theorem separated (h : IsTwin marked plain) (joiner : Option Connective) :
    IsTwin (marked.separated joiner) (plain.separated joiner) := by
  unfold Builder.separated
  rw [h.trim_body]
  dsimp only
  split
  next => exact h
  next =>
    cases joiner with
    | none => exact h.spaced
    | some c =>
        dsimp only
        split
        next => exact h.spaced
        next => exact h.connective c

theorem op (h : IsTwin marked plain) (property : Text) (operator : Operator)
    (value : Option Scalar) (quoted : Bool) :
    IsTwin (marked.op property operator value quoted) (plain.op property operator value quoted) := by
  cases value with
  | none => exact h
  | some value => exact h.push _ _

theorem inList (h : IsTwin marked plain) (property : Text) (operator : ListOperator)
    (values : List (Option Scalar)) :
    IsTwin (marked.inList property operator values) (plain.inList property operator values) := by
  unfold Builder.inList
  split
  next => exact h
  next => exact h.push _ _

theorem addCondition (h : IsTwin marked plain) (condition : Text) :
    IsTwin (marked.addCondition condition) (plain.addCondition condition) := by
  unfold Builder.addCondition
  split
  next => exact h
  next => exact h.push _ _

theorem append (h : IsTwin marked plain) (fragment : Text) (joiner : Option Connective) :
    IsTwin (marked.append fragment joiner) (plain.append fragment joiner) := by
  unfold Builder.append
  dsimp only
  split
  next => exact h
  next => exact (h.separated joiner).push _ _

theorem concat (h : IsTwin marked plain) (other : Builder) (joiner : Option Connective) :
    IsTwin (marked.concat other joiner) (plain.concat other joiner) := by
  unfold Builder.concat
  rw [h.isEmpty_eq]
  cases joiner with
  | none => exact h.push _ _
  | some c =>
      dsimp only
      split
      next => exact h.push _ _
      next => exact (h.connective c).push _ _

theorem replayRaw (h : IsTwin marked plain) (text : Text) :
    IsTwin (marked.replayRaw text) (plain.replayRaw text) := by
  cases hblank : (stripMarker text).allBlank with
  | true => rwa [replayRaw_of_blank hblank, replayRaw_of_blank hblank]
  | false =>
      rw [replayRaw_of_not_blank hblank, replayRaw_of_not_blank hblank]
      exact (h.separated none).push _ _

theorem apply (h : IsTwin marked plain) (token : Token) :
    IsTwin (marked.apply token) (plain.apply token) := by
  cases token with
  | condition property operator value => exact h.op property operator (some value) _
  | listCondition property operator values => exact h.inList property operator _
  | connective c => exact h.connective c
  | paren p => exact h.push p.literal (.paren p)
  | raw text => exact h.replayRaw text

theorem run (h : IsTwin marked plain) (c : Call) : IsTwin (c.run marked) (c.run plain) := by
  cases c with
  | op property operator value quoted => exact h.op property operator value quoted
  | inList property operator values => exact h.inList property operator values
  | addCondition condition => exact h.addCondition condition
  | connective c => exact h.connective c
  | paren p => exact h.push p.literal (.paren p)
  | append fragment joiner => exact h.append fragment joiner
  | merge other joiner => exact h.append other.text joiner
  | concat other joiner => exact h.concat other joiner
  | apply token => exact h.apply token

/-- Builders that have had the same calls stay twins. -/
theorem runAll (h : IsTwin marked plain) (program : List Call) :
    IsTwin (marked.runAll program) (plain.runAll program) := by
  induction program generalizing marked plain with
  | nil => exact h
  | cons c program ih => exact ih (h.run c)

/-! ## The finished query -/

/-- The finished queries are the same without the marker. Finishing may go back
to the marker itself, and then nothing is left of either. -/
theorem stripMarker_plainQuery (h : IsTwin marked plain) :
    stripMarker marked.plainQuery = plain.plainQuery := by
  obtain ⟨body, htext, hbody⟩ := h.exists_body
  have hflush : IsFlush (markerAndSpace ++ body) := isFlush_cons.mpr (by decide)
  have hreverse : (markerAndSpace ++ body).reverse = body.reverse ++ ' ' :: marker.reverse := by
    simp [markerAndSpace]
  have hmarker : dropDangling marker.reverse = marker.reverse := by decide
  have hplain : trimStart (dropDangling body.reverse).reverse = plain.plainQuery := by
    rw [trimStart_reverse_dropDangling, hbody]
    rfl
  rw [plainQuery, htext, hflush.trimStart_eq, hreverse,
    dropDangling_append_blank_cons (by decide), ← hplain]
  split
  next hnil =>
    rw [hmarker, hnil]
    decide
  next =>
    rw [List.reverse_append, List.reverse_cons, List.reverse_reverse, List.append_assoc,
      stripMarker_marker_append]
    exact trimStart_blank_append (by decide) _

theorem problems_plainQuery (h : IsTwin marked plain) (hmarker : ¬ marker <+: plain.plainQuery) :
    problems marked.plainQuery = problems plain.plainQuery := by
  apply problems_eq_of_queryBody_eq
  rw [queryBody, queryBody, trim_plainQuery, trim_plainQuery, h.stripMarker_plainQuery,
    stripMarker_eq_self hmarker]

end IsTwin

/-- Two builders that have had the same calls, one made with the marker and one
without: the finished queries, the tokens and the emptiness are the same, the
marker apart, and so are the problems of the queries, unless the query itself
begins with a marker. -/
theorem stripMarker_build_runAll (program : List Call) :
    stripMarker ((ofOptions { marked := true }).runAll program).build =
        ((ofOptions {}).runAll program).build ∧
      ((ofOptions { marked := true }).runAll program).tokens =
        .raw marker :: ((ofOptions {}).runAll program).tokens ∧
      ((ofOptions { marked := true }).runAll program).isEmpty =
        ((ofOptions {}).runAll program).isEmpty ∧
      (¬ marker <+: ((ofOptions {}).runAll program).build →
        problems ((ofOptions { marked := true }).runAll program).build =
          problems ((ofOptions {}).runAll program).build) := by
  have htwin := (IsTwin.ofOptions false false).runAll program
  rw [build_runAll rfl, build_runAll rfl]
  exact ⟨htwin.stripMarker_plainQuery, htwin.tokens_eq, htwin.isEmpty_eq,
    htwin.problems_plainQuery⟩

/-- A connective at the front takes the place of the space after the marker; a
group of nothing but a connective follows. -/
theorem problems_build_leading_connective :
    problems ((ofOptions { marked := true }).runAll
        [.connective .or, .apply (.raw "Filters= A == 1".toList), .paren .closing,
          .concat ((ofOptions { marked := true }).connective .and) (some .and)]).build =
      problems ((ofOptions {}).runAll
        [.connective .or, .apply (.raw "Filters= A == 1".toList), .paren .closing,
          .concat ((ofOptions { marked := true }).connective .and) (some .and)]).build :=
  (stripMarker_build_runAll _).2.2.2 (by decide +kernel)

end Builder

end FilterQuery
