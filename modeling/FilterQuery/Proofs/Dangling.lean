import FilterQuery.Builder
import FilterQuery.Proofs.Lexing
/-!
# Dangling connectives

A finished query is without the connectives that end it. A connective that is
written changes nothing about the finished query, and if the last lexeme does
not end like a connective, the finished query is the trimmed text.
-/

namespace FilterQuery

open Text

namespace Builder

theorem dropDangling_blank_cons {c : Char} (h : isBlank c = true) (rest : Text) :
    dropDangling (c :: rest) = dropDangling rest := by
  cases rest <;> simp [dropDangling, h]

theorem dropDangling_blank_append {gap : Text} (h : gap.allBlank = true) (rest : Text) :
    dropDangling (gap ++ rest) = dropDangling rest := by
  induction gap with
  | nil => rfl
  | cons c gap ih =>
      simp only [allBlank, List.all_cons, Bool.and_eq_true] at h
      rw [List.cons_append, dropDangling_blank_cons h.1, ih h.2]

theorem dropDangling_literal_append (j : Connective) (rest : Text) :
    dropDangling (j.literal ++ rest) = dropDangling rest := by
  have hblank : isBlank '&' = false ∧ isBlank '|' = false := by decide
  cases j <;> simp [Connective.literal, dropDangling, hblank]

theorem reverse_literal (j : Connective) : j.literal.reverse = j.literal := by cases j <;> rfl

theorem dropDangling_reverse_trimEnd (text : Text) :
    dropDangling text.trimEnd.reverse = dropDangling text.reverse := by
  obtain ⟨gap, hgap, htext⟩ := exists_trimEnd_append text
  conv_rhs => rw [htext, List.reverse_append, dropDangling_blank_append (by rwa [allBlank_reverse])]

theorem dropDangling_reverse_append_connective (text : Text) (c : Connective) :
    dropDangling (text ++ (' ' :: c.literal ++ [' '])).reverse = dropDangling text.reverse := by
  have hgap : allBlank [' '] = true := by decide
  have hreverse : (text ++ (' ' :: c.literal ++ [' '])).reverse =
      [' '] ++ (c.literal ++ ([' '] ++ text.reverse)) := by
    simp [reverse_literal]
  rw [hreverse, dropDangling_blank_append hgap, dropDangling_literal_append,
    dropDangling_blank_append hgap]

theorem dropDangling_suffix (text : Text) : dropDangling text <:+ text := by
  fun_induction dropDangling text with
  | case1 => exact List.suffix_rfl
  | case2 c => exact List.nil_suffix
  | case3 c => exact List.suffix_rfl
  | case4 c d rest hblank ih => exact ih.trans (List.suffix_cons c _)
  | case5 c d rest hblank hpair ih => exact ih.trans (List.suffix_append [c, d] rest)
  | case6 c d rest hblank hpair => exact List.suffix_rfl

theorem isFlush_dropDangling (text : Text) : IsFlush (dropDangling text) := by
  fun_induction dropDangling text with
  | case1 => exact isFlush_nil
  | case2 c => exact isFlush_nil
  | case3 c hblank => exact isFlush_cons.mpr (by simpa using hblank)
  | case4 c d rest hblank ih => exact ih
  | case5 c d rest hblank hpair ih => exact ih
  | case6 c d rest hblank hpair => exact isFlush_cons.mpr (by simpa using hblank)

theorem dropDangling_eq_self {text : Text} (hflush : IsFlush text)
    (h : ∀ j : Connective, ¬ j.literal <+: text) : dropDangling text = text := by
  match text with
  | [] => rfl
  | [c] => simp [dropDangling, isFlush_cons.mp hflush]
  | c :: d :: rest =>
      have hpair : ¬((c = '&' ∧ d = '&') ∨ (c = '|' ∧ d = '|')) := by
        rintro (⟨rfl, rfl⟩ | ⟨rfl, rfl⟩)
        · exact h .and ⟨rest, rfl⟩
        · exact h .or ⟨rest, rfl⟩
      simp [dropDangling, isFlush_cons.mp hflush, hpair]

/-- What is left of a text is kept when white space and another text come before
it. -/
theorem dropDangling_append_blank_cons {gap : Char} (h : isBlank gap = true) (text more : Text) :
    dropDangling (text ++ gap :: more) =
      if dropDangling text = [] then dropDangling more else dropDangling text ++ gap :: more := by
  have hgap : gap ≠ '&' ∧ gap ≠ '|' := by
    constructor <;> rintro rfl <;> revert h <;> decide
  fun_induction dropDangling text with
  | case1 => simpa using dropDangling_blank_cons h more
  | case2 c hblank =>
      simpa using (dropDangling_blank_cons hblank _).trans (dropDangling_blank_cons h more)
  | case3 c hblank => simp [dropDangling, hblank, hgap.1, hgap.2]
  | case4 c d rest hblank ih => rw [List.cons_append, dropDangling_blank_cons hblank, ih]
  | case5 c d rest hblank hpair ih => simp [dropDangling, hblank, hpair, ih]
  | case6 c d rest hblank hpair => simp [dropDangling, hblank, hpair]

theorem reverse_dropDangling_isPrefix (text : Text) :
    (dropDangling text.reverse).reverse <+: text := by
  have hsuffix := dropDangling_suffix text.reverse
  rwa [← List.reverse_prefix, List.reverse_reverse] at hsuffix

/-- White space at the front of a text is still there when the text is finished,
if anything is. -/
theorem trimStart_reverse_dropDangling (text : Text) :
    trimStart (dropDangling text.reverse).reverse =
      (dropDangling (trimStart text).reverse).reverse := by
  induction text with
  | nil => rfl
  | cons c text ih =>
      cases hc : isBlank c with
      | false =>
          have hflush : IsFlush (c :: text) := isFlush_cons.mpr hc
          rw [hflush.trimStart_eq]
          exact (hflush.of_isPrefix (reverse_dropDangling_isPrefix (c :: text))).trimStart_eq
      | true =>
          have htrim (text : Text) : trimStart (c :: text) = trimStart text := by
            simp [trimStart, hc]
          rw [htrim, ← ih, List.reverse_cons, dropDangling_append_blank_cons hc]
          split
          next hnil => simp [hnil, dropDangling]
          next => rw [List.reverse_append, List.reverse_singleton, List.singleton_append, htrim]

theorem isFlush_plainQuery (b : Builder) : IsFlush b.plainQuery :=
  (isFlush_trimStart b.text).of_isPrefix (reverse_dropDangling_isPrefix _)

/-- A finished query has no white space at its ends. -/
theorem trim_plainQuery (b : Builder) : b.plainQuery.trim = b.plainQuery := by
  rw [trim, b.isFlush_plainQuery.trimStart_eq]
  refine trimEnd_eq_self fun c hc => ?_
  rw [plainQuery, Option.mem_def, List.getLast?_reverse] at hc
  exact isFlush_dropDangling _ c hc

theorem text_connective (b : Builder) (c : Connective) :
    (b.connective c).text = b.text.trimEnd ++ (' ' :: c.literal ++ [' ']) := rfl

/-- A connective that is written at the end is not in the finished query. -/
theorem plainQuery_connective (b : Builder) (c : Connective) :
    (b.connective c).plainQuery = b.plainQuery := by
  rw [plainQuery, plainQuery, text_connective]
  congr 1
  by_cases hblank : b.text.allBlank = true
  · -- Nothing is left but the connective, and that is dropped.
    rw [trimEnd_eq_nil_iff.mpr hblank, trimStart_eq_nil_iff.mpr hblank]
    cases c <;> decide
  · have hrest : b.text.trimEnd.allBlank = false := by
      rw [Bool.eq_false_iff, Ne, ← trimStart_eq_nil_iff, trimStart_trimEnd, trim_eq_nil_iff]
      exact hblank
    rw [trimStart_append hrest, dropDangling_reverse_append_connective, trimStart_trimEnd, trim,
      dropDangling_reverse_trimEnd]

/-- No number of connectives at the end changes the finished query. -/
theorem plainQuery_connectives (b : Builder) (joiners : List Connective) :
    (joiners.foldl connective b).plainQuery = b.plainQuery := by
  induction joiners generalizing b with
  | nil => rfl
  | cons c joiners ih => rw [List.foldl_cons, ih, plainQuery_connective]

end Builder

/-! ## The last lexeme -/

/-- The text does not end with a character of a connective. -/
def IsClear (text : Text) : Prop := ∀ c ∈ text.getLast?, c ≠ '&' ∧ c ≠ '|'

theorem isClear_concat {c : Char} (h : c ≠ '&' ∧ c ≠ '|') (text : Text) :
    IsClear (text ++ [c]) := by
  intro d hd
  rw [List.getLast?_concat] at hd
  rwa [← Option.some.inj hd]

/-- A lexeme does not end with white space. -/
theorem trimEnd_readLexeme {c : Char} (hblank : isBlank c = false) (rest : Text) :
    (readLexeme c rest).text.trimEnd = (readLexeme c rest).text := by
  refine trimEnd_eq_self fun d hd => ?_
  have hreads := readsTo_readLexeme c rest
  generalize readLexeme c rest = reading at hreads hd
  cases hreads with
  | quoted hclose =>
      simp only [List.getLast?_cons, closeQuote?_getLast? hclose, Option.getD_some] at hd
      obtain rfl := Option.some.inj hd
      decide
  | paren p =>
      obtain rfl := Option.some.inj hd
      exact hblank
  | connective j =>
      have hword := Connective.isWordChar_of_mem_literal (List.mem_of_mem_getLast? hd)
      exact isBlank_of_isWordChar hword
  | word _ hparen _ =>
      rcases List.mem_cons.mp (List.mem_of_mem_getLast? hd) with rfl | hmem
      · exact hblank
      · exact isBlank_of_isWordChar (List.mem_takeWhile_imp hmem)

/-- The last lexeme of a text is at the end of the trimmed text. What stands
before it has the other lexemes, also if only the front of the last one is left
there. -/
theorem exists_trimEnd_eq_append_last {text : Text} {read : List Content} {last : Content}
    (h : contents text = read ++ [last]) :
    ∃ init, text.trimEnd = init ++ last.2 ∧
      ∀ front, front <+: last.2 → contents (init ++ front) = read ++ contents front := by
  induction text using lexInduction generalizing read with
  | nil => simp at h
  | blank c rest hblank ih =>
      rw [contents_blank_cons hblank] at h
      obtain ⟨init, htrim, hinit⟩ := ih h
      have hrest : rest.allBlank = false := by
        rw [Bool.eq_false_iff, Ne, ← contents_eq_nil_iff, h]
        exact List.append_ne_nil_of_right_ne_nil read (List.cons_ne_nil _ _)
      refine ⟨c :: init, ?_, fun front hfront => ?_⟩
      · rw [← List.singleton_append, trimEnd_append hrest, htrim]
        rfl
      · rw [List.cons_append, contents_blank_cons hblank, hinit front hfront]
  | lexeme c rest hblank ih =>
      rw [contents_cons hblank] at h
      cases read with
      | nil =>
          obtain ⟨rfl, hafter⟩ := List.cons.inj h
          refine ⟨[], ?_, fun front _ => rfl⟩
          rw [← readLexeme_append c rest, trimEnd_append_blank (contents_eq_nil_iff.mp hafter),
            trimEnd_readLexeme hblank]
          rfl
      | cons first read =>
          obtain ⟨rfl, hafter⟩ := List.cons.inj h
          obtain ⟨init, htrim, hinit⟩ := ih hafter
          have hrest : (readLexeme c rest).after.allBlank = false := by
            rw [Bool.eq_false_iff, Ne, ← contents_eq_nil_iff, hafter]
            exact List.append_ne_nil_of_right_ne_nil read (List.cons_ne_nil _ _)
          obtain ⟨text, htext⟩ := exists_readLexeme_text_eq_cons c rest
          refine ⟨(readLexeme c rest).text ++ init, ?_, fun front hfront => ?_⟩
          · rw [← readLexeme_append c rest, trimEnd_append hrest, htrim, List.append_assoc]
          · have hbegin : init ++ front <+: (readLexeme c rest).after := by
              refine ((List.prefix_append_right_inj init).mpr hfront).trans ?_
              exact htrim ▸ trimEnd_isPrefix _
            rw [htext, List.append_assoc, List.cons_append, contents_cons hblank,
              readLexeme_of_prefix htext hbegin, hinit front hfront]
            rfl

theorem exists_trimEnd_eq_append {text : Text} {read : List Content} {last : Content}
    (h : contents text = read ++ [last]) :
    ∃ init, text.trimEnd = init ++ last.2 ∧ contents init = read := by
  obtain ⟨init, htrim, hinit⟩ := exists_trimEnd_eq_append_last h
  exact ⟨init, htrim, by simpa using hinit [] List.nil_prefix⟩

/-! ## Finishing a text -/

theorem dropDangling_cons_of_clear {c : Char} (hblank : isBlank c = false)
    (hclear : c ≠ '&' ∧ c ≠ '|') (rest : Text) :
    Builder.dropDangling (c :: rest) = c :: rest := by
  cases rest <;> simp [Builder.dropDangling, hblank, hclear.1, hclear.2]

/-- A text does not end like a connective if its last lexeme does not. -/
theorem isClear_of_contents {text : Text}
    (h : ∀ content ∈ (contents text).getLast?, IsClear content.2) : IsClear text.trimEnd := by
  rcases List.eq_nil_or_concat (contents text) with hread | ⟨read, last, hread⟩
  · rw [trimEnd_eq_nil_iff.mpr (contents_eq_nil_iff.mp hread)]
    simp [IsClear]
  · rw [List.concat_eq_append] at hread
    obtain ⟨init, htrim, -⟩ := exists_trimEnd_eq_append hread
    have hne := ne_nil_of_mem_contents (hread ▸ List.mem_append_right read
      (List.mem_singleton_self last))
    rw [IsClear, htrim, List.getLast?_append_of_ne_nil _ hne]
    exact h last (by simp [hread])

/-- If the last lexeme does not end like a connective, nothing but white space
is dropped. -/
theorem dropDangling_of_isClear {text : Text}
    (h : ∀ content ∈ (contents text).getLast?, IsClear content.2) :
    (Builder.dropDangling text.reverse).reverse = text.trimEnd := by
  rw [← Builder.dropDangling_reverse_trimEnd]
  have hclear : IsClear text.trimEnd := isClear_of_contents h
  have hlast : ∀ c ∈ text.trimEnd.getLast?, isBlank c = false := getLast?_trimEnd
  rcases List.eq_nil_or_concat text.trimEnd with hnil | ⟨init, c, hconcat⟩
  · rw [hnil]
    rfl
  · rw [hconcat, List.concat_eq_append] at hlast hclear ⊢
    rw [List.reverse_append, List.reverse_singleton, List.singleton_append,
      dropDangling_cons_of_clear (hlast c (by simp)) (hclear c (by simp))]
    simp

/-- Lexemes without the connectives that end them. -/
def undangled (read : List Content) : List Content :=
  read.rdropWhile fun content => content.1.isConnective

/-- The last lexeme that is not a connective does not end like one. -/
def EndsClear (read : List Content) : Prop :=
  ∀ content ∈ (undangled read).getLast?, IsClear content.2

theorem undangled_concat_connective {last : Content} (h : last.1.isConnective = true)
    (read : List Content) : undangled (read ++ [last]) = undangled read :=
  List.rdropWhile_concat_pos _ _ last h

theorem undangled_concat {last : Content} (h : last.1.isConnective = false)
    (read : List Content) : undangled (read ++ [last]) = read ++ [last] :=
  List.rdropWhile_concat_neg _ _ last (by simp [h])

theorem undangled_append_of_nil {right : List Content} (h : undangled right = [])
    (left : List Content) : undangled (left ++ right) = undangled left := by
  rw [undangled, List.rdropWhile_eq_nil_iff] at h
  induction right using List.reverseRecOn with
  | nil => rw [List.append_nil]
  | append_singleton right last ih =>
      have hlast : last.1.isConnective = true := h last (by simp)
      rw [← List.append_assoc, undangled_concat_connective hlast]
      exact ih fun content hcontent => h content (List.mem_append_left _ hcontent)

theorem undangled_append_of_ne_nil {right : List Content} (h : undangled right ≠ [])
    (left : List Content) : undangled (left ++ right) = left ++ undangled right := by
  induction right using List.reverseRecOn with
  | nil => exact absurd rfl h
  | append_singleton right last ih =>
      rw [← List.append_assoc]
      cases hlast : last.1.isConnective with
      | true =>
          rw [undangled_concat_connective hlast] at h ⊢
          rw [undangled_concat_connective hlast]
          exact ih h
      | false => rw [undangled_concat hlast, undangled_concat hlast, List.append_assoc]

namespace EndsClear

variable {left right : List Content}

theorem append (hleft : EndsClear left) (hright : EndsClear right) :
    EndsClear (left ++ right) := by
  by_cases hnil : undangled right = []
  · rwa [EndsClear, undangled_append_of_nil hnil]
  · rw [EndsClear, undangled_append_of_ne_nil hnil, List.getLast?_append_of_ne_nil _ hnil]
    exact hright

theorem of_append_right (h : EndsClear (left ++ right)) : EndsClear right := by
  by_cases hnil : undangled right = []
  · simp [EndsClear, hnil]
  · rwa [EndsClear, undangled_append_of_ne_nil hnil, List.getLast?_append_of_ne_nil _ hnil] at h

theorem flatMap {α : Type} {f : α → List Content} {parts : List α}
    (h : ∀ part ∈ parts, EndsClear (f part)) : EndsClear (parts.flatMap f) := by
  induction parts with
  | nil => simp [EndsClear, undangled]
  | cons part parts ih =>
      obtain ⟨hpart, hparts⟩ := List.forall_mem_cons.mp h
      rw [List.flatMap_cons]
      exact hpart.append (ih hparts)

theorem concat {last : Content} (hkind : last.1.isConnective = false) (hclear : IsClear last.2)
    (read : List Content) : EndsClear (read ++ [last]) := by
  intro content hcontent
  rw [undangled_concat hkind, List.getLast?_concat] at hcontent
  rwa [← Option.some.inj hcontent]

theorem connective (j : Connective) : EndsClear [(.connective j, j.literal)] := by
  have hdrop : undangled ([] ++ [(.connective j, j.literal)]) = [] :=
    List.rdropWhile_concat_pos _ [] _ rfl
  rw [List.nil_append] at hdrop
  simp [EndsClear, hdrop]

end EndsClear

theorem eq_literal_of_mem_contents {text : Text} {content : Content} {j : Connective}
    (h : content ∈ contents text) (hkind : content.1 = .connective j) : content.2 = j.literal := by
  cases isLexical_of_mem_contents h with
  | quoted => cases hkind
  | paren => cases hkind
  | connective => rw [LexemeKind.connective.inj hkind]
  | word => cases hkind

/-- The lexemes of a finished text are those of the text without the connectives
at its end. The induction takes lexemes off the end. -/
theorem contents_dropDangling {text : Text} (h : EndsClear (contents text)) :
    contents (Builder.dropDangling text.reverse).reverse = undangled (contents text) := by
  generalize hread : contents text = read at h ⊢
  induction read using List.reverseRecOn generalizing text with
  | nil =>
      have hblank : allBlank text.reverse = true := by
        rw [allBlank_reverse]
        exact contents_eq_nil_iff.mp hread
      rw [← List.append_nil text.reverse, Builder.dropDangling_blank_append hblank]
      exact contents_nil
  | append_singleton read last ih =>
      cases hkind : last.1.isConnective with
      | true =>
          obtain ⟨init, htrim, hinit⟩ := exists_trimEnd_eq_append hread
          obtain ⟨j, hj⟩ : ∃ j, last.1 = .connective j := by
            revert hkind
            cases last.1 <;> simp [LexemeKind.isConnective]
          have hmem : last ∈ contents text := by simp [hread]
          rw [eq_literal_of_mem_contents hmem hj] at htrim
          rw [EndsClear, undangled_concat_connective hkind] at h
          rw [undangled_concat_connective hkind, ← Builder.dropDangling_reverse_trimEnd, htrim,
            List.reverse_append, Builder.reverse_literal, Builder.dropDangling_literal_append]
          exact ih hinit h
      | false =>
          rw [EndsClear, undangled_concat hkind, ← hread] at h
          rw [undangled_concat hkind, dropDangling_of_isClear h, contents_trimEnd, hread]

namespace Builder

/-- If the last lexeme does not end like a connective, finishing a query only
trims it. -/
theorem plainQuery_eq_trim {b : Builder}
    (h : ∀ content ∈ (contents b.text).getLast?, IsClear content.2) :
    b.plainQuery = b.text.trim := by
  rw [← contents_trimStart b.text] at h
  exact dropDangling_of_isClear h

theorem contents_plainQuery_eq_undangled {b : Builder} (h : EndsClear (contents b.text)) :
    contents b.plainQuery = undangled (contents b.text) := by
  rw [← contents_trimStart b.text] at h ⊢
  exact contents_dropDangling h

end Builder

end FilterQuery
