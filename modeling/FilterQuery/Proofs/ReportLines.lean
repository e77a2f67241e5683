import FilterQuery.Proofs.Dangling
import FilterQuery.Proofs.Lines
import FilterQuery.Proofs.Rendering
import FilterQuery.Proofs.Stopping
import FilterQuery.Report
/-!
# Lines of reports

A report in text has a line for each problem or each lexeme, except that it
writes lexemes as they stand in the query. A quoted string can hold line feeds,
and then it goes over several lines; no other lexeme can.
-/

namespace FilterQuery

open Text

/-! ## Line feeds of lexemes -/

/-- Only a quoted string holds white space of any sort. -/
theorem IsLexical.kind_eq_quoted {content : Content} (h : IsLexical content) {c : Char}
    (hc : c ∈ content.2) (hblank : isBlank c = true) : content.1 = .quoted := by
  have hword : isWordChar c ≠ true := fun hword => by
    rw [isBlank_of_isWordChar hword] at hblank
    exact Bool.false_ne_true hblank
  cases h with
  | quoted => rfl
  | paren p =>
      obtain rfl := List.mem_singleton.mp hc
      cases p <;> exact absurd hblank (by decide)
  | connective j => exact absurd (Connective.isWordChar_of_mem_literal hc) hword
  | word _ hchars _ => exact absurd (hchars c hc) hword

theorem kind_eq_quoted_of_mem_lex {text : Text} {l : Lexeme} (h : l ∈ lex text)
    (hmem : '\n' ∈ l.text) : l.kind = .quoted :=
  (isLexical_of_mem_contents (List.mem_map_of_mem h)).kind_eq_quoted hmem (by decide)

/-- A lexeme ends with no white space, so neither does what ends with one. -/
theorem endsVisible_of_mem_lex {text : Text} {l : Lexeme} (h : l ∈ lex text) :
    EndsVisible l.text := by
  have hcontent : l.content ∈ contents text := List.mem_map_of_mem h
  obtain ⟨c, rest, hblank, heq⟩ := exists_readLexeme_of_mem hcontent
  obtain ⟨-, htext⟩ := Prod.mk.inj heq
  rw [htext]
  have hlast := List.getLast?_eq_some_getLast (readLexeme_ne_nil c rest)
  have hvisible := @getLast?_trimEnd (readLexeme c rest).text
  rw [trimEnd_readLexeme hblank] at hvisible
  exact ⟨_, hlast, hvisible _ hlast⟩

/-- What a problem of a query tells was found is a lexeme of the query. -/
theorem exists_lexeme_of_found {query : Text} {problem : Problem}
    (hproblem : problem ∈ problems query) {found : Text} (hfound : problem.found? = some found) :
    ∃ l ∈ lex (queryBody query), l.text = found := by
  have hplace : problem.index? ≠ none := by
    cases problem with
    | expectedCondition | expectedConnective => exact Option.some_ne_none _
    | unmatchedClosing | endsWithConnective | unmatchedOpening => cases hfound
  rcases exists_stops_problems query with
    ⟨-, hnone⟩ | ⟨expected, depth, passed, left, hlexemes, -, hstops⟩
  · simp [hnone] at hproblem
  · obtain ⟨first, rest, rfl, hfirst⟩ := hstops.exists_first hproblem hplace
    refine ⟨first, by simp [hlexemes], ?_⟩
    rcases hfirst with ⟨-, rfl⟩ | ⟨-, rfl | rfl⟩
    · exact Option.some.inj hfound
    · exact Option.some.inj hfound
    · cases hfound

/-! ## Line feeds of what stands around them -/

theorem IsPlain.endsVisible {text : Text} (h : IsPlain text) : EndsVisible text := by
  have hlast := List.getLast?_eq_some_getLast h.1
  exact ⟨_, hlast, isBlank_of_isWordChar
    (isWordChar_of_isPlainChar (h.2 _ (List.mem_of_mem_getLast? hlast)))⟩

theorem count_ofNat (n : Nat) : (Text.ofNat n).count '\n' = 0 := by
  refine List.count_eq_zero.mpr fun hmem => ?_
  exact absurd ((isPlain_ofNat n).2 '\n' hmem) (by decide)

theorem LexemeKind.count_name (kind : LexemeKind) : kind.name.count '\n' = 0 := by
  rcases kind with _ | (_ | _) | (_ | _) | _ <;> decide

theorem count_padLeft (width : Nat) (text : Text) :
    (text.padLeft width).count '\n' = text.count '\n' := by
  simp [padLeft, List.count_replicate]

theorem count_padRight (width : Nat) (text : Text) :
    (text.padRight width).count '\n' = text.count '\n' := by
  simp [padRight, List.count_replicate]

theorem Terminal.Style.count_paintIf (style : Style) (colored : Bool) (text : Text) :
    (style.paintIf colored text).count '\n' = text.count '\n' := by
  cases colored with
  | false => rfl
  | true => simp [paintIf, paint, opening, closing, count_ofNat]

/-! ## Problems -/

theorem Problem.endsVisible_message (problem : Problem) : EndsVisible problem.message := by
  cases problem with
  | expectedCondition | expectedConnective => exact endsVisible_concat (by decide) _
  | unmatchedClosing index => exact (isPlain_ofNat index).endsVisible.append _
  | endsWithConnective => exact ⟨'r', by decide, by decide⟩
  | unmatchedOpening => exact ⟨'s', by decide, by decide⟩

theorem count_telling {front : Text} (hfront : front.count '\n' = 0) (index : Nat)
    (found : Text) :
    (front ++ Text.ofNat index ++ ", found \"".toList ++ found ++ ['"']).count '\n' =
      found.count '\n' := by
  have hmiddle : ", found \"".toList.count '\n' = 0 := by decide
  have hquote : ['"'].count '\n' = 0 := by decide
  simp only [List.count_append, hfront, hmiddle, hquote, count_ofNat, Nat.zero_add, Nat.add_zero]

/-- A message has the line feeds of the lexeme that it tells. -/
theorem Problem.count_message (problem : Problem) :
    problem.message.count '\n' = (problem.found?.getD []).count '\n' := by
  cases problem with
  | expectedCondition index found => exact count_telling (by decide) index found
  | expectedConnective index found => exact count_telling (by decide) index found
  | unmatchedClosing index =>
      change ("Unmatched closing parenthesis at token ".toList ++ Text.ofNat index).count '\n' = 0
      rw [List.count_append, count_ofNat]
      decide
  | endsWithConnective => decide
  | unmatchedOpening => decide

theorem Problem.count_messages (reported : List Problem) :
    (reported.map message).flatten.count '\n' = (reported.filterMap found?).flatten.count '\n' := by
  induction reported with
  | nil => rfl
  | cons problem reported ih =>
      rw [List.map_cons, List.flatten_cons, List.count_append, ih, problem.count_message,
        List.filterMap_cons]
      cases problem.found? with
      | none => simp
      | some found => simp

theorem Problem.mem_message_iff {problem : Problem} :
    '\n' ∈ problem.message ↔ ∃ found, problem.found? = some found ∧ '\n' ∈ found := by
  rw [← List.count_pos_iff, problem.count_message]
  cases problem.found? with
  | none => simp
  | some found => simp [List.count_pos_iff]

/-! ## Lexemes -/

namespace Report

variable {colored : Bool} {width number : Nat} {lexemes : List Lexeme}

/-- The line of a lexeme has the line feeds of the lexeme. -/
theorem count_lexemeLine (colored : Bool) (width number : Nat) (l : Lexeme) :
    (lexemeLine colored width number l).count '\n' = l.text.count '\n' := by
  have hgap : "  ".toList.count '\n' = 0 := by decide
  simp only [lexemeLine, List.count_append, count_padLeft, count_ofNat, hgap,
    Terminal.Style.count_paintIf, count_padRight, LexemeKind.count_name, Nat.zero_add]

theorem mem_lexemeLine_iff {l : Lexeme} :
    '\n' ∈ lexemeLine colored width number l ↔ '\n' ∈ l.text := by
  rw [← List.count_pos_iff, count_lexemeLine, List.count_pos_iff]

theorem lexemeLines_eq_mapIdx (colored : Bool) (width number : Nat) (lexemes : List Lexeme) :
    lexemeLines colored width number lexemes =
      lexemes.mapIdx fun i l => lexemeLine colored width (number + i) l := by
  induction lexemes generalizing number with
  | nil => rfl
  | cons l lexemes ih =>
      rw [lexemeLines, ih, List.mapIdx_cons]
      simp only [Nat.add_zero, Nat.add_assoc, Nat.add_comm 1]

theorem forall_mem_lexemeLines {p : Text → Prop} :
    (∀ part ∈ lexemeLines colored width number lexemes, p part) ↔
      ∀ i l, lexemes[i]? = some l → p (lexemeLine colored width (number + i) l) := by
  simp only [lexemeLines_eq_mapIdx, List.mem_iff_getElem?, List.getElem?_mapIdx,
    Option.map_eq_some_iff]
  constructor
  · exact fun h i l hl => h _ ⟨i, l, hl, rfl⟩
  · rintro h _ ⟨i, l, hl, rfl⟩
    exact h i l hl

theorem count_lexemeLines (colored : Bool) (width number : Nat) (lexemes : List Lexeme) :
    (lexemeLines colored width number lexemes).flatten.count '\n' =
      (lexemes.flatMap Lexeme.text).count '\n' := by
  induction lexemes generalizing number with
  | nil => rfl
  | cons l lexemes ih =>
      rw [lexemeLines, List.flatten_cons, List.flatMap_cons, List.count_append, List.count_append,
        count_lexemeLine, ih]

/-! ## Reports -/

/-- The problems of a rejected query take a line each, and one more for each line
feed in a lexeme that is told. The lines are the messages exactly if there is no
line feed in a quoted string that is told. -/
theorem lines_validationText {query : Text} (h : isWellFormed query = false) :
    (lines (validationText (problems query))).length =
        (problems query).length + ((problems query).filterMap Problem.found?).flatten.count '\n' ∧
    (lines (validationText (problems query)) = (problems query).map Problem.message ↔
      ∀ l ∈ lex (queryBody query), l.kind = .quoted →
        (∃ problem ∈ problems query, problem.found? = some l.text) → '\n' ∉ l.text) := by
  have htext : validationText (problems query) =
      joined ['\n'] ((problems query).map Problem.message) := if_neg (Bool.eq_false_iff.mp h)
  have hvisible : ∀ part ∈ (problems query).map Problem.message, EndsVisible part :=
    List.forall_mem_map.mpr fun problem _ => problem.endsVisible_message
  constructor
  · rw [htext, length_lines_joined hvisible, List.length_map, Problem.count_messages]
  · rw [htext, lines_joined_eq_iff hvisible, List.forall_mem_map]
    constructor
    · rintro hnone l - - ⟨problem, hproblem, hfound⟩ hmem
      exact hnone problem hproblem (Problem.mem_message_iff.mpr ⟨l.text, hfound, hmem⟩)
    · intro hnone problem hproblem hmem
      obtain ⟨found, hfound, hfeed⟩ := Problem.mem_message_iff.mp hmem
      obtain ⟨l, hl, rfl⟩ := exists_lexeme_of_found hproblem hfound
      exact hnone l hl (kind_eq_quoted_of_mem_lex hl hfeed) ⟨problem, hproblem, hfound⟩ hfeed

/-- The lexemes of a text take a line each, and one more for each line feed in
them. The lines are those of the lexemes exactly if there is no line feed in a
quoted string. -/
theorem lines_lexemesText (colored : Bool) (text : Text) :
    (lines (lexemesText colored (lex text))).length =
        (lex text).length + ((lex text).flatMap Lexeme.text).count '\n' ∧
    (lines (lexemesText colored (lex text)) =
        (lex text).mapIdx (fun i l => lexemeLine colored (kindWidth (lex text)) (i + 1) l) ↔
      ∀ l ∈ lex text, l.kind = .quoted → '\n' ∉ l.text) := by
  have hvisible : ∀ part ∈ lexemeLines colored (kindWidth (lex text)) 1 (lex text),
      EndsVisible part := by
    refine forall_mem_lexemeLines.mpr fun i l hl => ?_
    exact (endsVisible_of_mem_lex (List.mem_of_getElem? hl)).append _
  have hparts : lexemeLines colored (kindWidth (lex text)) 1 (lex text) =
      (lex text).mapIdx fun i l => lexemeLine colored (kindWidth (lex text)) (i + 1) l := by
    simp only [lexemeLines_eq_mapIdx, Nat.add_comm 1]
  constructor
  · rw [lexemesText, length_lines_joined hvisible, count_lexemeLines, hparts,
      List.length_mapIdx]
  · rw [lexemesText, ← hparts, lines_joined_eq_iff hvisible, forall_mem_lexemeLines]
    simp only [mem_lexemeLine_iff]
    constructor
    · intro hnone l hl _
      obtain ⟨i, hi⟩ := List.mem_iff_getElem?.mp hl
      exact hnone i l hi
    · intro hnone i l hi hmem
      have hl : l ∈ lex text := List.mem_of_getElem? hi
      exact hnone l hl (kind_eq_quoted_of_mem_lex hl hmem) hmem

/-- The two reports on a query, line by line. The problems of a rejected query and
the lexemes of any one stand on a line each, the problems as their messages and
the lexemes with their numbers, exactly if no quoted string that is written there
has a line feed in it; each line feed makes one line more. -/
theorem lines_reports (query : Text) (colored : Bool) :
    let lexemes := lex (queryBody query)
    (isWellFormed query = false →
      (lines (validationText (problems query))).length =
          (problems query).length +
            ((problems query).filterMap Problem.found?).flatten.count '\n' ∧
      (lines (validationText (problems query)) = (problems query).map Problem.message ↔
        ∀ l ∈ lexemes, l.kind = .quoted →
          (∃ problem ∈ problems query, problem.found? = some l.text) → '\n' ∉ l.text)) ∧
    (lines (lexemesText colored lexemes)).length =
        lexemes.length + (lexemes.flatMap Lexeme.text).count '\n' ∧
    (lines (lexemesText colored lexemes) =
        lexemes.mapIdx (fun i l => lexemeLine colored (kindWidth lexemes) (i + 1) l) ↔
      ∀ l ∈ lexemes, l.kind = .quoted → '\n' ∉ l.text) :=
  ⟨lines_validationText, lines_lexemesText colored (queryBody query)⟩

/-- A string over two lines makes a line too many in the listing of lexemes, but
none in the report on a parenthesis behind it. -/
theorem lines_reports_value :
    let query := "Filters= A == \"x\ny\" )".toList
    isWellFormed query = false ∧
      lines (validationText (problems query)) = (problems query).map Problem.message ∧
      (lines (lexemesText true (lex (queryBody query)))).length = 5 := by
  intro query
  have hrejected : isWellFormed query = false := by decide +kernel
  have hproblems : problems query = [.unmatchedClosing 4] := by decide +kernel
  have hcount : (lex (queryBody query)).length +
      ((lex (queryBody query)).flatMap Lexeme.text).count '\n' = 5 := by decide +kernel
  obtain ⟨hvalidation, hlength, -⟩ := lines_reports query true
  refine ⟨hrejected, (hvalidation hrejected).2.mpr ?_, hlength.trans hcount⟩
  -- The only problem tells no lexeme, so the string is not written there.
  rintro l - - ⟨problem, hproblem, hfound⟩
  rw [hproblems, List.mem_singleton] at hproblem
  subst hproblem
  cases hfound

/-- A string over two lines where a condition must begin: a line too many in both
reports. -/
theorem lines_reports_string :
    let query := "\"a\nb\"".toList
    isWellFormed query = false ∧
      (problems query).length = 2 ∧ (lines (validationText (problems query))).length = 3 ∧
      (lex (queryBody query)).length = 1 ∧
      (lines (lexemesText false (lex (queryBody query)))).length = 2 := by
  decide +kernel

end Report

end FilterQuery
