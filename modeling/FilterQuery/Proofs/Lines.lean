import FilterQuery.Proofs.Trimming
/-!
# Lines of a text

A text that is put together from parts with line feeds between them has the lines
of the parts one after the other, if no part ends with white space. So it has one
line for each part, and one more for each line feed in a part.
-/

namespace FilterQuery.Text

/-! ## Between line feeds -/

theorem splitLines_eq_splitOn (text : Text) : splitLines text = text.splitOn '\n' := by
  induction text with
  | nil => rfl
  | cons c text ih =>
      rw [splitLines, ih, List.splitOn_cons_eq_if_modifyHead]
      by_cases hc : c = '\n'
      · simp [hc]
      · obtain ⟨line, lines, hlines⟩ :=
          List.exists_cons_of_ne_nil (List.splitOn_ne_nil '\n' text)
        simp [hc, hlines]

theorem splitLines_ne_nil (text : Text) : splitLines text ≠ [] := by
  rw [splitLines_eq_splitOn]
  exact List.splitOn_ne_nil '\n' text

theorem splitLines_append (left right : Text) :
    splitLines (left ++ '\n' :: right) = splitLines left ++ splitLines right := by
  simp only [splitLines_eq_splitOn, List.splitOn_append_cons_self]

theorem splitLines_of_notMem {text : Text} (h : '\n' ∉ text) : splitLines text = [text] := by
  rw [splitLines_eq_splitOn, List.splitOn_eq_singleton h]

theorem length_splitLines (text : Text) :
    (splitLines text).length = text.count '\n' + 1 := by
  induction text with
  | nil => rfl
  | cons c text ih =>
      rw [splitLines_eq_splitOn] at ih ⊢
      rw [List.splitOn_cons_eq_if_modifyHead, List.count_cons, ← Nat.add_right_comm, ← ih]
      by_cases hc : (c == '\n') = true <;> simp [hc]

/-- The pieces hold every character but the line feeds. -/
theorem flatten_splitLines (text : Text) :
    (splitLines text).flatten = text.filter (· != '\n') := by
  induction text with
  | nil => rfl
  | cons c text ih =>
      obtain ⟨line, lines, hlines⟩ := List.exists_cons_of_ne_nil (splitLines_ne_nil text)
      rw [splitLines, List.filter_cons, ← ih, hlines]
      by_cases hc : c = '\n' <;> simp [hc]

/-- A last character that is no line feed stands in the last piece. -/
theorem exists_splitLines_concat {c : Char} (hc : c ≠ '\n') (text : Text) :
    ∃ first last, splitLines (text ++ [c]) = first ++ [last ++ [c]] := by
  induction text with
  | nil => exact ⟨[], [], by simp [splitLines, hc]⟩
  | cons d text ih =>
      obtain ⟨first, last, h⟩ := ih
      rw [List.cons_append, splitLines, h]
      by_cases hd : d = '\n'
      · exact ⟨[] :: first, last, by simp [hd]⟩
      · cases first with
        | nil => exact ⟨[], d :: last, by simp [hd]⟩
        | cons line first => exact ⟨(d :: line) :: first, last, by simp [hd]⟩

/-! ## Lines -/

/-- A line feed ends a line, whatever follows it. -/
theorem lines_append (left right : Text) :
    lines (left ++ '\n' :: right) =
      (splitLines left).map dropCarriageReturn ++ lines right := by
  have hne := splitLines_ne_nil right
  unfold lines
  rw [splitLines_append]
  dsimp only
  rw [List.dropLast_append_of_ne_nil hne, List.getLast?_append_of_ne_nil _ hne, List.map_append]
  split <;> simp_all

theorem lines_of_notMem {text : Text} (hne : text ≠ []) (h : '\n' ∉ text) :
    lines text = [text] := by
  unfold lines
  rw [splitLines_of_notMem h]
  cases text with
  | nil => exact absurd rfl hne
  | cons c text => rfl

theorem dropCarriageReturn_isPrefix (line : Text) : dropCarriageReturn line <+: line := by
  unfold dropCarriageReturn
  cases hstrip : stripEnd? ['\r'] line with
  | none => exact List.prefix_rfl
  | some rest => exact ⟨['\r'], (stripEnd?_eq_some_iff.mp hstrip).symm⟩

/-- A line is a piece between line feeds, but for a carriage return that may end
it. -/
theorem exists_splitLines_of_mem_lines {text line : Text} (h : line ∈ lines text) :
    ∃ piece ∈ splitLines text, line <+: piece := by
  have hended : ∀ {line}, line ∈ (splitLines text).dropLast.map dropCarriageReturn →
      ∃ piece ∈ splitLines text, line <+: piece := by
    intro line hline
    obtain ⟨piece, hpiece, rfl⟩ := List.mem_map.mp hline
    exact ⟨piece, List.mem_of_mem_dropLast hpiece, dropCarriageReturn_isPrefix piece⟩
  unfold lines at h
  dsimp only at h
  split at h
  next => exact hended h
  next => exact hended h
  next last _ hlast =>
    rcases List.mem_append.mp h with h | h
    · exact hended h
    · exact ⟨last, List.mem_of_mem_getLast? hlast, (List.mem_singleton.mp h) ▸ List.prefix_rfl⟩

theorem mem_of_mem_lines {text line : Text} {c : Char} (hline : line ∈ lines text)
    (hc : c ∈ line) : c ∈ text := by
  obtain ⟨piece, hpiece, hfront⟩ := exists_splitLines_of_mem_lines hline
  have hflatten : c ∈ (splitLines text).flatten :=
    List.mem_flatten_of_mem hpiece (hfront.subset hc)
  rw [flatten_splitLines] at hflatten
  exact List.mem_of_mem_filter hflatten

/-- The text ends with a character, and that is not white space. -/
def EndsVisible (text : Text) : Prop := ∃ c ∈ text.getLast?, isBlank c = false

theorem EndsVisible.append {right : Text} (h : EndsVisible right) (left : Text) :
    EndsVisible (left ++ right) := by
  obtain ⟨c, hc, hblank⟩ := h
  exact ⟨c, by simp [List.getLast?_append, Option.mem_def.mp hc], hblank⟩

theorem endsVisible_concat {c : Char} (h : isBlank c = false) (text : Text) :
    EndsVisible (text ++ [c]) :=
  ⟨c, List.getLast?_concat, h⟩

theorem EndsVisible.ne_nil {text : Text} (h : EndsVisible text) : text ≠ [] := by
  rintro rfl
  obtain ⟨c, hc, -⟩ := h
  simp at hc

/-- The last line of such a text is neither empty nor ends with a carriage
return. -/
theorem EndsVisible.lines_eq {text : Text} (h : EndsVisible text) :
    lines text = (splitLines text).map dropCarriageReturn := by
  obtain ⟨c, hc, hblank⟩ := h
  obtain ⟨text, rfl⟩ := List.getLast?_eq_some_iff.mp hc
  have hfeed : c ≠ '\n' := by
    rintro rfl
    revert hblank
    decide
  have hreturn : c ≠ '\r' := by
    rintro rfl
    revert hblank
    decide
  obtain ⟨first, last, hlines⟩ := exists_splitLines_concat hfeed text
  have hlast : dropCarriageReturn (last ++ [c]) = last ++ [c] := by
    cases hstrip : stripEnd? ['\r'] (last ++ [c]) with
    | none => rw [dropCarriageReturn, hstrip, Option.getD_none]
    | some rest =>
        have hend := (List.append_inj' (stripEnd?_eq_some_iff.mp hstrip) rfl).2
        exact absurd (List.singleton_inj.mp hend) hreturn
  unfold lines
  rw [hlines]
  dsimp only
  rw [List.dropLast_concat, List.getLast?_concat, List.map_append, List.map_singleton, hlast]
  cases last <;> rfl

theorem EndsVisible.length_lines {text : Text} (h : EndsVisible text) :
    (lines text).length = text.count '\n' + 1 := by
  rw [h.lines_eq, List.length_map, length_splitLines]

/-! ## Parts on lines of their own -/

theorem lines_joined {parts : List Text} (h : ∀ part ∈ parts, EndsVisible part) :
    lines (joined ['\n'] parts) = parts.flatMap lines := by
  induction parts with
  | nil => rfl
  | cons part parts ih =>
      obtain ⟨hpart, hparts⟩ := List.forall_mem_cons.mp h
      cases parts with
      | nil => simp [joined]
      | cons next rest =>
          rw [joined, List.append_assoc, List.singleton_append, lines_append, ih hparts,
            ← hpart.lines_eq]
          rfl

theorem length_lines_joined {parts : List Text} (h : ∀ part ∈ parts, EndsVisible part) :
    (lines (joined ['\n'] parts)).length = parts.length + parts.flatten.count '\n' := by
  rw [lines_joined h]
  induction parts with
  | nil => rfl
  | cons part parts ih =>
      obtain ⟨hpart, hparts⟩ := List.forall_mem_cons.mp h
      rw [List.flatMap_cons, List.length_append, ih hparts, hpart.length_lines, List.flatten_cons,
        List.count_append, List.length_cons]
      omega

/-- The lines are the parts exactly if there are no line feeds in them. -/
theorem lines_joined_eq_iff {parts : List Text} (h : ∀ part ∈ parts, EndsVisible part) :
    lines (joined ['\n'] parts) = parts ↔ ∀ part ∈ parts, '\n' ∉ part := by
  constructor
  · -- The number of lines alone rules out a line feed in a part.
    intro hlines part hpart hmem
    have hlength := length_lines_joined h
    rw [hlines] at hlength
    have hnone : parts.flatten.count '\n' = 0 := by omega
    exact List.count_eq_zero.mp hnone (List.mem_flatten_of_mem hpart hmem)
  · intro hnone
    have hsingle : parts.flatMap lines = parts.flatMap fun part => [part] :=
      List.flatMap_congr fun part hpart => lines_of_notMem (h part hpart).ne_nil (hnone part hpart)
    rw [lines_joined h, hsingle, List.flatMap_singleton']

end FilterQuery.Text
