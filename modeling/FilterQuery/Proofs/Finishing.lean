import FilterQuery.Builder.Call
import FilterQuery.Proofs.Dangling
/-!
# What finishing takes off

Of the trimmed text of a builder, finishing takes off connectives and white
space at the end and nothing else, and it goes on until neither is there. What
is written as a connective is all taken off again.
-/

namespace FilterQuery

open Text

/-- Whether a text is made of connectives and white space only. -/
inductive IsFiller : Text → Prop
  | nil : IsFiller []
  | blank {c : Char} {rest : Text} : isBlank c = true → IsFiller rest → IsFiller (c :: rest)
  | connective (j : Connective) {rest : Text} : IsFiller rest → IsFiller (j.literal ++ rest)

namespace IsFiller

variable {left right : Text}

theorem append (hleft : IsFiller left) (hright : IsFiller right) : IsFiller (left ++ right) := by
  induction hleft with
  | nil => exact hright
  | blank hblank _ ih => exact .blank hblank ih
  | connective j _ ih =>
      rw [List.append_assoc]
      exact .connective j ih

theorem reverse (h : IsFiller left) : IsFiller left.reverse := by
  induction h with
  | nil => exact .nil
  | blank hblank _ ih =>
      rw [List.reverse_cons]
      exact ih.append (.blank hblank .nil)
  | connective j _ ih =>
      have hliteral : IsFiller (j.literal ++ []) := .connective j .nil
      rw [List.append_nil] at hliteral
      rw [List.reverse_append, Builder.reverse_literal]
      exact ih.append hliteral

end IsFiller

namespace Builder

/-- Each step of finishing takes off a blank or a connective. -/
theorem exists_isFiller_append_dropDangling (text : Text) :
    ∃ front, IsFiller front ∧ text = front ++ dropDangling text := by
  fun_induction dropDangling text with
  | case1 => exact ⟨[], .nil, rfl⟩
  | case2 c hblank => exact ⟨[c], .blank hblank .nil, rfl⟩
  | case3 c hblank => exact ⟨[], .nil, rfl⟩
  | case4 c d rest hblank ih =>
      obtain ⟨front, hfront, heq⟩ := ih
      exact ⟨c :: front, .blank hblank hfront, congrArg (c :: ·) heq⟩
  | case5 c d rest hblank hpair ih =>
      obtain ⟨front, hfront, heq⟩ := ih
      refine ⟨c :: d :: front, ?_, congrArg (c :: d :: ·) heq⟩
      rcases hpair with ⟨rfl, rfl⟩ | ⟨rfl, rfl⟩
      · exact .connective .and hfront
      · exact .connective .or hfront
  | case6 c d rest hblank hpair => exact ⟨[], .nil, rfl⟩

theorem not_literal_prefix_dropDangling (j : Connective) (text : Text) :
    ¬ j.literal <+: dropDangling text := by
  fun_induction dropDangling text with
  | case1 => cases j <;> simp [Connective.literal]
  | case2 c hblank => cases j <;> simp [Connective.literal]
  | case3 c hblank => cases j <;> simp [Connective.literal]
  | case4 c d rest hblank ih => exact ih
  | case5 c d rest hblank hpair ih => exact ih
  | case6 c d rest hblank hpair =>
      rintro ⟨after, heq⟩
      cases j with
      | and =>
          obtain ⟨rfl, htail⟩ := List.cons.inj heq
          obtain ⟨rfl, -⟩ := List.cons.inj htail
          exact hpair (.inl ⟨rfl, rfl⟩)
      | or =>
          obtain ⟨rfl, htail⟩ := List.cons.inj heq
          obtain ⟨rfl, -⟩ := List.cons.inj htail
          exact hpair (.inr ⟨rfl, rfl⟩)

theorem not_literal_suffix_plainQuery (b : Builder) (j : Connective) :
    ¬ j.literal <:+ b.plainQuery := by
  rw [plainQuery, ← List.reverse_prefix, List.reverse_reverse, reverse_literal]
  exact not_literal_prefix_dropDangling j _

/-- The trimmed text is the finished query and filler. -/
theorem exists_trim_eq_plainQuery_append (b : Builder) :
    ∃ rest, IsFiller rest ∧ b.text.trim = b.plainQuery ++ rest := by
  obtain ⟨front, hfront, heq⟩ := exists_isFiller_append_dropDangling b.text.trim.reverse
  refine ⟨front.reverse, hfront.reverse, ?_⟩
  rw [trim, dropDangling_reverse_trimEnd] at heq
  rw [plainQuery, ← List.reverse_append, ← heq, List.reverse_reverse, trim]

theorem options_connectives (b : Builder) (joiners : List Connective) :
    (joiners.foldl connective b).options = b.options := by
  induction joiners generalizing b with
  | nil => rfl
  | cons c joiners ih => exact ih (b.connective c)

theorem tokens_connectives (b : Builder) (joiners : List Connective) :
    (joiners.foldl connective b).tokens = b.tokens ++ joiners.map Token.connective := by
  induction joiners generalizing b with
  | nil => exact (List.append_nil b.tokens).symm
  | cons c joiners ih =>
      have htokens : (b.connective c).tokens = b.tokens ++ [.connective c] := rfl
      rw [List.foldl_cons, ih, htokens, List.append_assoc, List.map_cons]
      rfl

/-- A query that is finished without percent-encoding has no white space at its
ends and no connective at its end, and it is the trimmed text but for
connectives and white space that stood behind it. Connectives that are written
do not change the finished query, whatever the options, and each of them is
recorded. -/
theorem build_drops_dangling (b : Builder) :
    (b.options.encodeUri = false →
      b.build.trim = b.build ∧ (∀ j : Connective, ¬ j.literal <:+ b.build) ∧
        ∃ rest, IsFiller rest ∧ b.text.trim = b.build ++ rest) ∧
    ∀ joiners : List Connective,
      (joiners.foldl connective b).build = b.build ∧
        (joiners.foldl connective b).tokens = b.tokens ++ joiners.map Token.connective := by
  refine ⟨fun hplain => ?_, fun joiners => ⟨?_, b.tokens_connectives joiners⟩⟩
  · have hbuild : b.build = b.plainQuery := by simp [build, hplain]
    rw [hbuild]
    exact ⟨b.trim_plainQuery, b.not_literal_suffix_plainQuery, b.exists_trim_eq_plainQuery_append⟩
  · rw [build, build, options_connectives, plainQuery_connectives]

/-- Glued connectives, a single ampersand and wide white space after the marker:
the finished query ends with the ampersand. -/
theorem build_drops_dangling_glued :
    let b := (ofOptions ⟨false, true⟩).runAll [.append "\t&&&||&& ||\u3000".toList none]
    b.options.encodeUri = false ∧ b.build = "Filters= \t&".toList ∧ b.build.trim = b.build ∧
      (∀ j : Connective, ¬ j.literal <:+ b.build) ∧
        ∃ rest, IsFiller rest ∧ b.text.trim = b.build ++ rest := by
  intro b
  have hplain : b.options.encodeUri = false := rfl
  exact ⟨hplain, by decide +kernel, (build_drops_dangling b).1 hplain⟩

end Builder

end FilterQuery
