import FilterQuery.LogFilter
import Mathlib.Data.List.Induction
import Mathlib.Data.List.Lex
/-!
# Directives in order

The directives of a filter stand in falling order of rank, so there is at most
one of each rank. Of several directives that are given with one rank the last
one is kept, and no other is lost. That settles which lists a filter is made of:
in what order directives of different ranks are given makes no difference, and a
filter is made of its own directives again.
-/

namespace FilterQuery.LogFilter

variable {d e : Directive} {sorted directives : List Directive}

/-- Each directive has a greater rank than all those after it. -/
def IsOrdered (directives : List Directive) : Prop := directives.Pairwise fun d e => e.rank < d.rank

/-- The last directive that has a rank. -/
def lastOf? (rank : List (List Nat)) (directives : List Directive) : Option Directive :=
  directives.reverse.find? fun d => d.rank = rank

theorem lastOf?_append (rank : List (List Nat)) (front back : List Directive) :
    lastOf? rank (front ++ back) = (lastOf? rank back).or (lastOf? rank front) := by
  rw [lastOf?, List.reverse_append, List.find?_append]
  rfl

theorem lastOf?_concat (rank : List (List Nat)) (directives : List Directive) (d : Directive) :
    lastOf? rank (directives ++ [d]) =
      if d.rank = rank then some d else lastOf? rank directives := by
  rw [lastOf?_append]
  by_cases h : d.rank = rank <;> simp [lastOf?, h]

theorem rank_of_lastOf? {rank : List (List Nat)} (h : lastOf? rank directives = some d) :
    d.rank = rank := by
  have hfound := List.find?_some h
  exact of_decide_eq_true hfound

theorem mem_of_lastOf? {rank : List (List Nat)} (h : lastOf? rank directives = some d) :
    d ∈ directives := List.mem_reverse.mp (List.mem_of_find?_eq_some h)

theorem exists_lastOf? (h : d ∈ directives) : ∃ e, lastOf? d.rank directives = some e := by
  refine Option.isSome_iff_exists.mp (List.find?_isSome.mpr ⟨d, List.mem_reverse.mpr h, ?_⟩)
  exact decide_eq_true rfl

/-! ## Lists in order -/

theorem IsOrdered.nodup (h : IsOrdered directives) : directives.Nodup := by
  refine List.Pairwise.imp ?_ h
  intro d e hlt heq
  subst e
  exact lt_irrefl d.rank hlt

theorem IsOrdered.eq_of_rank_eq (h : IsOrdered directives) (hd : d ∈ directives)
    (he : e ∈ directives) (hrank : d.rank = e.rank) : d = e := by
  induction directives with
  | nil => exact absurd hd List.not_mem_nil
  | cons first rest ih =>
      obtain ⟨hfirst, hrest⟩ := List.pairwise_cons.mp h
      rcases List.mem_cons.mp hd with rfl | hdrest
      · rcases List.mem_cons.mp he with rfl | herest
        · rfl
        · exact absurd hrank (ne_of_gt (hfirst e herest))
      · rcases List.mem_cons.mp he with rfl | herest
        · exact absurd hrank (ne_of_lt (hfirst d hdrest))
        · exact ih hrest hdrest herest

theorem IsOrdered.lastOf?_eq_some_iff (h : IsOrdered directives) :
    lastOf? d.rank directives = some d ↔ d ∈ directives := by
  refine ⟨mem_of_lastOf?, fun hd => ?_⟩
  obtain ⟨e, he⟩ := exists_lastOf? hd
  rw [he, h.eq_of_rank_eq (mem_of_lastOf? he) hd (rank_of_lastOf? he)]

/-- Two lists that are in order are the same if they have the same directives. -/
theorem IsOrdered.ext {left right : List Directive} (hleft : IsOrdered left)
    (hright : IsOrdered right) (h : ∀ rank, lastOf? rank left = lastOf? rank right) :
    left = right := by
  have hmem : ∀ d, d ∈ left ↔ d ∈ right := by
    intro d
    rw [← hleft.lastOf?_eq_some_iff, ← hright.lastOf?_eq_some_iff, h]
  have hperm := (List.perm_ext_iff_of_nodup hleft.nodup hright.nodup).mpr hmem
  exact hperm.eq_of_pairwise (fun _ _ _ _ hlt hgt => absurd hgt (lt_asymm hlt)) hleft hright

/-! ## One directive added -/

theorem mem_insert_iff (h : IsOrdered sorted) :
    e ∈ insert d sorted ↔ e = d ∨ e ∈ sorted ∧ e.rank ≠ d.rank := by
  induction sorted with
  | nil => simp [insert]
  | cons first rest ih =>
      obtain ⟨hfirst, hrest⟩ := List.pairwise_cons.mp h
      rw [insert]
      split
      next heq =>
        -- The directives after the first have smaller ranks.
        have hne : ∀ other ∈ rest, other.rank ≠ d.rank :=
          fun other hother => heq ▸ ne_of_lt (hfirst other hother)
        grind
      next hne =>
        split
        next hlt =>
          have hne : ∀ other ∈ rest, other.rank ≠ d.rank :=
            fun other hother => ne_of_lt ((hfirst other hother).trans hlt)
          grind
        next =>
          rw [List.mem_cons, ih hrest, List.mem_cons]
          grind

/-- The step: a directive that is added finds its place. -/
theorem IsOrdered.insert (h : IsOrdered sorted) (d : Directive) :
    IsOrdered (LogFilter.insert d sorted) := by
  induction sorted with
  | nil => exact List.pairwise_singleton _ d
  | cons first rest ih =>
      obtain ⟨hfirst, hrest⟩ := List.pairwise_cons.mp h
      rw [LogFilter.insert]
      split
      next heq =>
        exact List.pairwise_cons.mpr ⟨fun other hother => heq ▸ hfirst other hother, hrest⟩
      next hne =>
        split
        next hlt =>
          refine List.pairwise_cons.mpr ⟨List.forall_mem_cons.mpr ⟨hlt, ?_⟩, h⟩
          exact fun other hother => (hfirst other hother).trans hlt
        next hle =>
          refine List.pairwise_cons.mpr ⟨fun other hother => ?_, ih hrest⟩
          rcases (mem_insert_iff hrest).mp hother with rfl | ⟨hmem, -⟩
          · exact lt_of_le_of_ne (not_lt.mp hle) (Ne.symm hne)
          · exact hfirst other hmem

/-! ## All directives -/

theorem ordered_concat (directives : List Directive) (d : Directive) :
    ordered (directives ++ [d]) = insert d (ordered directives) := by
  rw [ordered, List.foldl_concat]
  rfl

theorem isOrdered_ordered (directives : List Directive) : IsOrdered (ordered directives) := by
  induction directives using List.reverseRecOn with
  | nil => exact List.Pairwise.nil
  | append_singleton directives d ih =>
      rw [ordered_concat]
      exact ih.insert d

/-- Of the directives of one rank the last one is kept, and it alone. -/
theorem mem_ordered_iff : e ∈ ordered directives ↔ lastOf? e.rank directives = some e := by
  induction directives using List.reverseRecOn with
  | nil => simp [ordered, lastOf?]
  | append_singleton directives d ih =>
      rw [ordered_concat, mem_insert_iff (isOrdered_ordered directives), ih, lastOf?_concat]
      grind

/-- Keeping the last one of each rank, and no others, changes none of them. -/
theorem lastOf?_ordered (rank : List (List Nat)) (directives : List Directive) :
    lastOf? rank (ordered directives) = lastOf? rank directives := by
  cases h : lastOf? rank (ordered directives) with
  | some d =>
      obtain rfl := rank_of_lastOf? h
      exact (mem_ordered_iff.mp (mem_of_lastOf? h)).symm
  | none =>
      cases h' : lastOf? rank directives with
      | none => rfl
      | some d =>
          obtain rfl := rank_of_lastOf? h'
          obtain ⟨e, he⟩ := exists_lastOf? (mem_ordered_iff.mpr h')
          exact absurd (h.symm.trans he) (by simp)

/-! ## Filters -/

theorem isSome_eq_of_length_eq {α : Type} {a b : Option α}
    (h : a.toList.length = b.toList.length) : a.isSome = b.isSome := by
  cases a <;> cases b <;> simp_all

/-- Directives of one rank are of one kind. -/
theorem Directive.kind_eq_of_rank_eq (h : d.rank = e.rank) :
    d.isStatic = e.isStatic ∧ d.isDynamic = e.isDynamic := by
  obtain ⟨target, span, field, level⟩ := d
  obtain ⟨target', span', field', level'⟩ := e
  simp only [rank, List.cons_append, List.nil_append, List.cons.injEq, and_true] at h
  obtain ⟨-, hspan, hfield, -, -, hvalue⟩ := h
  have hspan := isSome_eq_of_length_eq hspan
  have hfield := isSome_eq_of_length_eq hfield
  refine ⟨?_, by rw [isDynamic, isDynamic, hspan, hfield]⟩
  have hnone : span.isNone = span'.isNone := by
    rw [← Option.not_isSome, hspan, Option.not_isSome]
  cases field with
  | none =>
      cases field' with
      | none => simp [isStatic, hnone]
      | some field' => simp at hfield
  | some field =>
      cases field' with
      | none => simp at hfield
      | some field' =>
          simp only [Option.map_some, Option.getD_some, Field.rank, List.cons.injEq] at hvalue
          have hvalue := isSome_eq_of_length_eq hvalue.1.1
          simp [isStatic, hnone, hvalue]

theorem lastOf?_filter {p : Directive → Bool} (hp : ∀ d e, d.rank = e.rank → p d = p e)
    (rank : List (List Nat)) (directives : List Directive) :
    lastOf? rank (directives.filter p) = (lastOf? rank directives).filter p := by
  induction directives using List.reverseRecOn with
  | nil => rfl
  | append_singleton directives d ih =>
      rw [List.filter_append, lastOf?_append, ih, lastOf?_concat]
      by_cases hrank : d.rank = rank
      · cases hd : p d with
        | true => simp [lastOf?, hrank, hd, Option.filter_some]
        | false =>
            cases h : lastOf? rank directives with
            | none => simp [lastOf?, hrank, hd, Option.filter_some]
            | some e =>
                have he := hp e d ((rank_of_lastOf? h).trans hrank.symm)
                simp [lastOf?, hrank, hd, he, Option.filter_some]
      · cases hd : p d <;> simp [lastOf?, hrank, hd]

theorem Directive.isStatic_of_isDynamic (h : d.isDynamic = false) : d.isStatic = true := by
  obtain ⟨target, span, field, level⟩ := d
  cases span <;> cases field <;> simp_all [isDynamic, isStatic]

theorem lastOf?_statics (rank : List (List Nat)) (directives : List Directive) :
    lastOf? rank (ofDirectives directives).statics =
      (lastOf? rank directives).filter Directive.isStatic := by
  have hstatic : ∀ d e : Directive, d.rank = e.rank → d.isStatic = e.isStatic :=
    fun _ _ h => (Directive.kind_eq_of_rank_eq h).1
  have hdynamic : ∀ d e : Directive, d.rank = e.rank → d.isDynamic = e.isDynamic :=
    fun _ _ h => (Directive.kind_eq_of_rank_eq h).2
  have hother : ∀ d e : Directive, d.rank = e.rank → (!d.isDynamic) = !e.isDynamic :=
    fun _ _ h => congrArg not (hdynamic _ _ h)
  rw [ofDirectives, lastOf?_ordered, lastOf?_append, lastOf?_filter hstatic,
    lastOf?_filter hdynamic, lastOf?_filter hother]
  cases lastOf? rank directives with
  | none => rfl
  | some d =>
      cases h : d.isDynamic with
      | true => simp [Option.filter_some, h]
      | false => simp [Option.filter_some, h, Directive.isStatic_of_isDynamic h]

theorem lastOf?_dynamics (rank : List (List Nat)) (directives : List Directive) :
    lastOf? rank (ofDirectives directives).dynamics =
      (lastOf? rank directives).filter Directive.isDynamic := by
  rw [ofDirectives, lastOf?_ordered,
    lastOf?_filter fun _ _ h => (Directive.kind_eq_of_rank_eq h).2]

theorem isOrdered_statics (directives : List Directive) :
    IsOrdered (ofDirectives directives).statics := isOrdered_ordered _

theorem isOrdered_dynamics (directives : List Directive) :
    IsOrdered (ofDirectives directives).dynamics := isOrdered_ordered _

/-- A filter is settled by the last directive of each rank. -/
theorem ofDirectives_congr {left right : List Directive}
    (h : ∀ rank, lastOf? rank left = lastOf? rank right) :
    ofDirectives left = ofDirectives right := by
  refine LogFilter.mk.injEq _ _ _ _ ▸ ⟨?_, ?_⟩
  · refine (isOrdered_statics left).ext (isOrdered_statics right) fun rank => ?_
    exact (lastOf?_statics rank left).trans (h rank ▸ (lastOf?_statics rank right).symm)
  · refine (isOrdered_dynamics left).ext (isOrdered_dynamics right) fun rank => ?_
    exact (lastOf?_dynamics rank left).trans (h rank ▸ (lastOf?_dynamics rank right).symm)

/-- The directives of a filter, made into a filter, are that filter. -/
theorem ofDirectives_own (directives : List Directive) :
    ofDirectives ((ofDirectives directives).statics ++ (ofDirectives directives).dynamics) =
      ofDirectives directives := by
  refine ofDirectives_congr fun rank => ?_
  rw [lastOf?_append, lastOf?_dynamics, lastOf?_statics]
  cases lastOf? rank directives with
  | none => rfl
  | some d =>
      cases h : d.isDynamic with
      | true => simp [Option.filter_some, h]
      | false => simp [Option.filter_some, h, Directive.isStatic_of_isDynamic h]

/-- A directive is in a list of a filter if it is the last of its rank and of the
kind that the list is for. -/
theorem mem_ofDirectives_iff (directives : List Directive) (d : Directive) :
    (d ∈ (ofDirectives directives).statics ↔
        lastOf? d.rank directives = some d ∧ d.isStatic = true) ∧
      (d ∈ (ofDirectives directives).dynamics ↔
        lastOf? d.rank directives = some d ∧ d.isDynamic = true) := by
  rw [← (isOrdered_statics directives).lastOf?_eq_some_iff,
    ← (isOrdered_dynamics directives).lastOf?_eq_some_iff, lastOf?_statics, lastOf?_dynamics,
    Option.filter_eq_some_iff, Option.filter_eq_some_iff]
  exact ⟨Iff.rfl, Iff.rfl⟩

/-- The second directive for a target replaces the first, and the one for a span of
that target stands beside it. -/
example : (ofVariable (some "qk=info,warn,qk[build]=debug,qk=trace".toList)).text =
    "qk=trace,warn,qk[build]=debug".toList := by decide

end FilterQuery.LogFilter
