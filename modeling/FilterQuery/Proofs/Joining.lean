import FilterQuery.Proofs.Dangling
import FilterQuery.Proofs.Replay
/-!
# Joining a fragment by a connective

A fragment that is appended with a connective is appended as if the connective
had been written first and the fragment after it, unless nothing stands before
or what stands there ends with an opening parenthesis or a connective: then it
is appended as if it had no connective. The spaces come out the same either way.
-/

namespace FilterQuery.Builder

open Text

/-! ## The end of the text -/

theorem endsWithOpening_iff {text : Text} :
    endsWithOpening text = true ↔ text.getLast? = some '(' := beq_iff_eq

theorem endsWithConnective_iff {text : Text} :
    endsWithConnective text = true ↔ ∃ j : Connective, j.literal <:+ text := by
  rw [endsWithConnective, List.any_eq_true]
  constructor
  · rintro ⟨j, -, hends⟩
    exact ⟨j, List.isSuffixOf_iff_suffix.mp hends⟩
  · rintro ⟨j, hends⟩
    exact ⟨j, by cases j <;> decide, List.isSuffixOf_iff_suffix.mpr hends⟩

/-- A connective that has been written stands behind the marker. -/
theorem literal_suffix_body (b : Builder) (c : Connective) :
    c.literal ++ [' '] <:+ (b.connective c).body := by
  have hwhole : c.literal ++ [' '] <:+ (b.connective c).text :=
    ⟨b.text.trimEnd ++ [' '], by simp [text_connective]⟩
  unfold body
  split
  next =>
    cases hstrip : stripStart? markerAndSpace (b.connective c).text with
    | none => exact hwhole
    | some rest =>
        rw [stripStart?_eq_some_iff.mp hstrip] at hwhole
        obtain hbehind | ⟨front, hfront⟩ :=
          List.suffix_or_suffix_of_suffix hwhole (List.suffix_append markerAndSpace rest)
        · exact hbehind
        · -- What the connective had in common with the marker would be in both.
          obtain ⟨before, hbefore⟩ := hwhole
          rw [← hfront, ← List.append_assoc] at hbefore
          have hmarker : front <:+ markerAndSpace := ⟨before, List.append_cancel_right hbefore⟩
          cases front with
          | nil => exact ⟨[], hfront.symm⟩
          | cons d front =>
              have hd : d ∈ markerAndSpace := hmarker.subset List.mem_cons_self
              have hne : d ≠ '&' ∧ d ≠ '|' := by
                constructor <;> rintro rfl <;> revert hd <;> decide
              cases c with
              | and => exact absurd (List.cons.inj hfront).1 hne.1
              | or => exact absurd (List.cons.inj hfront).1 hne.2
  next => exact hwhole

/-- Whether a connective is written before a fragment: something stands behind
the marker, and it ends with neither an opening parenthesis nor a connective. -/
structure TakesJoiner (b : Builder) : Prop where
  not_isEmpty : b.isEmpty = false
  not_opening : b.body.trim.getLast? ≠ some '('
  not_connective : ∀ j : Connective, ¬ j.literal <:+ b.body.trim

variable {b : Builder}

theorem isEmpty_trim_body (b : Builder) : b.body.trim.isEmpty = b.isEmpty := by
  rw [Bool.eq_iff_iff, List.isEmpty_iff, trim_eq_nil_iff, isEmpty]

theorem TakesJoiner.separated (h : b.TakesJoiner) (c : Connective) :
    b.separated (some c) = b.connective c := by
  have hopening : endsWithOpening b.body.trim = false := by
    rw [Bool.eq_false_iff, Ne, endsWithOpening_iff]
    exact h.not_opening
  have hconnective : endsWithConnective b.body.trim = false := by
    rw [Bool.eq_false_iff, Ne, endsWithConnective_iff]
    exact not_exists.mpr h.not_connective
  simp [Builder.separated, isEmpty_trim_body, h.not_isEmpty, hopening, hconnective]

/-- Where no connective is written, it makes no difference which one would
be. -/
theorem separated_of_not_takesJoiner (h : ¬ b.TakesJoiner) (c : Connective) :
    b.separated (some c) = b.separated none := by
  unfold Builder.separated
  dsimp only
  split
  next => rfl
  next hcurrent =>
    rw [Bool.or_eq_true, not_or, isEmpty_trim_body, endsWithOpening_iff] at hcurrent
    rw [if_pos]
    -- Something stands before and no opening parenthesis, so it has to be a connective.
    rw [endsWithConnective_iff]
    by_contra hconnective
    exact h ⟨Bool.eq_false_iff.mpr hcurrent.1, hcurrent.2, not_exists.mp hconnective⟩

/-- A connective leaves a builder ready for a fragment: something other than an
opening parenthesis ends it, with one space behind. -/
theorem separated_connective (b : Builder) (c : Connective) :
    (b.connective c).separated none = b.connective c := by
  obtain ⟨front, hfront⟩ := literal_suffix_body b c
  have hliteral : (c.literal ++ [' ']).allBlank = false := by cases c <;> decide
  have htrim : trimEnd (c.literal ++ [' ']) = c.literal := by cases c <;> decide
  have hblank : (b.connective c).body.allBlank = false := by
    rw [← hfront, allBlank, List.all_append, Bool.and_eq_false_iff]
    exact .inr hliteral
  have hempty : (b.connective c).body.trim.isEmpty = false := by
    rw [isEmpty_trim_body]
    exact hblank
  have hopening : endsWithOpening (b.connective c).body.trim = false := by
    rw [Bool.eq_false_iff, Ne, endsWithOpening_iff, getLast?_trim hblank, ← hfront,
      trimEnd_append hliteral, htrim]
    cases c <;> simp [Connective.literal]
  have htext : (b.connective c).text.trimEnd ++ [' '] = (b.connective c).text := by
    have hsplit : (b.connective c).text = b.text.trimEnd ++ [' '] ++ (c.literal ++ [' ']) := by
      simp [text_connective]
    rw [hsplit, trimEnd_append hliteral, htrim, List.append_assoc]
  have hspaced : (b.connective c).spaced = b.connective c := by rw [spaced, htext]
  simp [Builder.separated, hempty, hopening, hspaced]

/-! ## Appending with a connective -/

/-- A fragment that is not blank is appended with a connective as if the
connective were written first and the fragment behind it, where a connective is
taken, and else as if there were no connective. Either way it is recorded as one
token, the text that is written, and stands at the end of the text. -/
theorem append_some_eq {fragment : Text} (hblank : (stripMarker fragment).allBlank = false)
    (b : Builder) (c : Connective) :
    (b.TakesJoiner →
      b.append fragment (some c) = (b.connective c).append fragment none ∧
        (b.append fragment (some c)).tokens =
          b.tokens ++ [.connective c, .raw (stripMarker fragment)]) ∧
    (¬ b.TakesJoiner →
      b.append fragment (some c) = b.append fragment none ∧
        (b.append fragment (some c)).tokens = b.tokens ++ [.raw (stripMarker fragment)]) ∧
    stripMarker fragment <:+ (b.append fragment (some c)).text := by
  simp only [append_of_not_blank hblank]
  refine ⟨fun htakes => ?_, fun hnot => ?_, List.suffix_append _ _⟩
  · rw [htakes.separated, separated_connective]
    exact ⟨rfl, List.append_assoc ..⟩
  · rw [separated_of_not_takesJoiner hnot]
    exact ⟨rfl, congrArg (· ++ _) (tokens_separated_none b)⟩

/-- Behind a group a fragment takes its connective, behind a connective it does
not. -/
theorem append_some_eq_group :
    (((ofOptions ⟨false, true⟩).runAll
        [.paren .opening, .append "A == 1".toList none, .paren .closing]).append
          "Filters=\tB == 2 ".toList (some .or)).tokens =
      [.raw marker, .paren .opening, .raw "A == 1".toList, .paren .closing, .connective .or,
        .raw "B == 2 ".toList] ∧
    ((ofOptions ⟨false, true⟩).connective .and).append "Filters=\tB == 2 ".toList (some .or) =
      ((ofOptions ⟨false, true⟩).connective .and).append "Filters=\tB == 2 ".toList none := by
  have hblank : (stripMarker "Filters=\tB == 2 ".toList).allBlank = false := by decide +kernel
  have htakes : TakesJoiner ((ofOptions ⟨false, true⟩).runAll
      [.paren .opening, .append "A == 1".toList none, .paren .closing]) :=
    ⟨by decide +kernel, by decide +kernel, by rintro (_ | _) <;> decide +kernel⟩
  have hnot : ¬ TakesJoiner ((ofOptions ⟨false, true⟩).connective .and) :=
    fun htakes => htakes.not_connective .and (by decide +kernel)
  exact ⟨((append_some_eq hblank _ .or).1 htakes).2, ((append_some_eq hblank _ .or).2.1 hnot).1⟩

end FilterQuery.Builder
