import FilterQuery.Proofs.Grammar
import FilterQuery.Proofs.Structured
import Mathlib.Data.List.Forall2
/-!
# Values do not change the structure of a query

Two programs that differ in the values of their conditions only build queries
that have their lexemes at the same places and the same problems, whatever the
values are. A value is one lexeme, the third of its condition, and the walk
passes over the third lexeme of a condition without looking at it.
-/

namespace FilterQuery

open Text

/-- Two calls that are the same, or conditions that differ in their value. -/
inductive Call.Alike : Call → Call → Prop
  | same (c : Call) : Call.Alike c c
  | value (property : Text) (operator : Operator) (first second : Scalar) (quoted : Bool) :
      Call.Alike (.op property operator (some first) quoted)
        (.op property operator (some second) quoted)

/-- The lexemes that a call stands for, the value of a condition left open. -/
def Call.skeleton : Call → List (Option Content)
  | .op property operator (some _) _ =>
      [some (.word, property), some (.word, operator.literal), none]
  | c => c.contents.map some

/-- The lexemes of the finished query, the values of conditions left open. -/
def querySkeleton (options : Options) (program : List Call) : List (Option Content) :=
  options.lead.map some ++ (visible program).flatMap Call.skeleton

/-- The lexeme that a value is read back as: a quoted string if it is quoted, and
the value as it is rendered. -/
def Scalar.contentAs (quoted : Bool) (value : Scalar) : Content :=
  (if quoted then .quoted else value.lexemeKind, value.render quoted)

/-- The value that a call writes, if it writes one, as a lexeme. -/
def Call.values : Call → List Content
  | .op _ _ (some value) quoted => [value.contentAs quoted]
  | _ => []

/-- The values of the conditions of the finished query, in order. -/
def queryValues (program : List Call) : List Content := (visible program).flatMap Call.values

/-- The lexemes of a skeleton with values put at its open places, in order. -/
def fill : List (Option Content) → List Content → List Content
  | some known :: skeleton, values => known :: fill skeleton values
  | none :: skeleton, value :: values => value :: fill skeleton values
  | _, _ => []

/-- The lexemes are those of the skeleton, with any lexemes at the open places. -/
def Fits (skeleton : List (Option Content)) (read : List Content) : Prop :=
  List.Forall₂ (fun slot content => ∀ known ∈ slot, content = known) skeleton read

/-! ## Fitting a skeleton -/

theorem Fits.append {left right : List (Option Content)} {readLeft readRight : List Content}
    (hleft : Fits left readLeft) (hright : Fits right readRight) :
    Fits (left ++ right) (readLeft ++ readRight) := by
  induction hleft with
  | nil => exact hright
  | cons hslot _ ih => exact .cons hslot ih

theorem fits_map_some (read : List Content) : Fits (read.map some) read := by
  induction read with
  | nil => exact .nil
  | cons content read ih => exact .cons (fun known hknown => Option.some.inj hknown) ih

theorem Call.fits_contents (c : Call) : Fits c.skeleton c.contents := by
  cases c with
  | op property operator value quoted =>
      cases value with
      | none => exact .nil
      | some value =>
          refine .cons ?_ (.cons ?_ (.cons ?_ .nil))
          · exact fun known hknown => Option.some.inj hknown
          · exact fun known hknown => Option.some.inj hknown
          · exact fun known hknown => absurd hknown (Option.not_mem_none known)
  | inList => exact fits_map_some _
  | connective => exact fits_map_some _
  | paren => exact fits_map_some _
  | addCondition => exact .nil
  | append => exact .nil
  | merge => exact .nil
  | concat => exact .nil
  | apply => exact .nil

theorem fits_flatMap_contents (program : List Call) :
    Fits (program.flatMap Call.skeleton) (program.flatMap Call.contents) := by
  induction program with
  | nil => exact .nil
  | cons c program ih => exact c.fits_contents.append ih

/-- Where a skeleton is not open, the lexemes that fit it are the same. -/
theorem Fits.getElem?_eq {skeleton : List (Option Content)} {left right : List Content}
    (hleft : Fits skeleton left) (hright : Fits skeleton right) {i : Nat}
    (h : skeleton[i]? ≠ some none) : left[i]? = right[i]? := by
  induction hleft generalizing right i with
  | nil =>
      cases hright
      rfl
  | @cons slot content skeleton left hslot _ ih =>
      cases hright with
      | cons hslot' hright =>
          cases i with
          | succ i => exact ih hright h
          | zero =>
              cases slot with
              | none => exact absurd rfl h
              | some known =>
                  rw [hslot known rfl, hslot' known rfl]
                  rfl

/-! ## Filling a skeleton -/

theorem Scalar.content_eq_contentAs (quoted : Bool) (value : Scalar) :
    (if quoted then value.stringified else value).content = value.contentAs quoted := by
  cases quoted <;> cases value <;> rfl

theorem fill_map_some_append (known : List Content) (skeleton : List (Option Content))
    (values : List Content) :
    fill (known.map some ++ skeleton) values = known ++ fill skeleton values := by
  induction known with
  | nil => rfl
  | cons content known ih => rw [List.map_cons, List.cons_append, fill, ih, List.cons_append]

/-- A call takes the value that it writes and leaves those of the calls behind it. -/
theorem Call.fill_skeleton_append (c : Call) (skeleton : List (Option Content))
    (values : List Content) :
    fill (c.skeleton ++ skeleton) (c.values ++ values) = c.contents ++ fill skeleton values := by
  cases c with
  | op property operator value quoted =>
      cases value with
      | none => rfl
      | some value =>
          simp only [Call.skeleton, Call.values, Call.contents, conditionContents,
            Scalar.content_eq_contentAs, List.cons_append, List.nil_append, fill]
  | inList => exact fill_map_some_append _ skeleton values
  | connective => exact fill_map_some_append _ skeleton values
  | paren => exact fill_map_some_append _ skeleton values
  | addCondition => rfl
  | append => rfl
  | merge => rfl
  | concat => rfl
  | apply => rfl

theorem fill_flatMap_skeleton (program : List Call) :
    fill (program.flatMap Call.skeleton) (program.flatMap Call.values) =
      program.flatMap Call.contents := by
  induction program with
  | nil => rfl
  | cons c program ih =>
      rw [List.flatMap_cons, List.flatMap_cons, List.flatMap_cons, c.fill_skeleton_append, ih]

/-- The finished query is its skeleton with the rendered values at the open
places. -/
theorem contents_build_eq_fill {options : Options} (hplain : options.encodeUri = false)
    {program : List Call} (hstructured : ∀ c ∈ program, c.IsStructured) :
    contents ((Builder.ofOptions options).runAll program).build =
      fill (querySkeleton options program) (queryValues program) := by
  rw [contents_build hplain hstructured, querySkeleton, queryValues, fill_map_some_append,
    fill_flatMap_skeleton]

/-! ## Alike programs -/

theorem Call.Alike.skeleton_eq {first second : Call} (h : first.Alike second) :
    first.skeleton = second.skeleton := by
  cases h <;> rfl

theorem Call.Alike.isDangling_eq {first second : Call} (h : first.Alike second) :
    first.isDangling = second.isDangling := by
  cases h <;> rfl

theorem Call.Alike.isStructured {first second : Call} (h : first.Alike second)
    (hstructured : first.IsStructured) : second.IsStructured := by
  cases h with
  | same => exact hstructured
  | value property operator first second quoted =>
      cases hstructured with
      | op _ _ _ hname => exact .op operator (some second) quoted hname

theorem forall₂_rdropWhile {α : Type} {r : α → α → Prop} {p : α → Bool}
    (hp : ∀ a b, r a b → p a = p b) {first second : List α} (h : List.Forall₂ r first second) :
    List.Forall₂ r (first.rdropWhile p) (second.rdropWhile p) := by
  rw [List.rdropWhile, List.rdropWhile, List.forall₂_reverse_iff]
  rw [← List.forall₂_reverse_iff] at h
  generalize first.reverse = left at h ⊢
  generalize second.reverse = right at h ⊢
  induction h with
  | nil => exact .nil
  | @cons a b _ _ hab hrest ih =>
      rw [List.dropWhile_cons, List.dropWhile_cons, hp a b hab]
      split
      next => exact ih
      next => exact .cons hab hrest

variable {first second : List Call}

theorem forall₂_visible (h : List.Forall₂ Call.Alike first second) :
    List.Forall₂ Call.Alike (visible first) (visible second) :=
  forall₂_rdropWhile (fun _ _ halike => halike.isDangling_eq) h

theorem isStructured_of_alike (h : List.Forall₂ Call.Alike first second)
    (hstructured : ∀ c ∈ first, c.IsStructured) : ∀ c ∈ second, c.IsStructured := by
  induction h with
  | nil => exact hstructured
  | cons halike _ ih =>
      obtain ⟨hc, hrest⟩ := List.forall_mem_cons.mp hstructured
      exact List.forall_mem_cons.mpr ⟨halike.isStructured hc, ih hrest⟩

theorem flatMap_skeleton_eq (h : List.Forall₂ Call.Alike first second) :
    first.flatMap Call.skeleton = second.flatMap Call.skeleton := by
  induction h with
  | nil => rfl
  | cons halike _ ih => rw [List.flatMap_cons, List.flatMap_cons, halike.skeleton_eq, ih]

theorem querySkeleton_eq_of_alike (h : List.Forall₂ Call.Alike first second) (options : Options) :
    querySkeleton options first = querySkeleton options second := by
  rw [querySkeleton, querySkeleton, flatMap_skeleton_eq (forall₂_visible h)]

/-- The lexemes of alike programs fit one skeleton. -/
theorem fits_skeleton_of_alike (h : List.Forall₂ Call.Alike first second) :
    Fits (first.flatMap Call.skeleton) (second.flatMap Call.contents) := by
  rw [flatMap_skeleton_eq h]
  exact fits_flatMap_contents second

/-! ## The walk over alike lexemes -/

/-- The walk reports the same over both lists, wherever it comes from. -/
def WalkAlike (left right : List Lexeme) : Prop :=
  ∀ (expected : Expected) (depth index : Nat),
    walk expected depth index left = walk expected depth index right

namespace WalkAlike

variable {front front' rest rest' : List Lexeme}

/-- A lexeme that begins no condition and is no opening parenthesis stops the
walk where a condition is expected. -/
theorem walk_stop {l : Lexeme} (hoperand : l.kind.isOperand = false)
    (hopening : l.kind ≠ .paren .opening) (depth index : Nat) (rest : List Lexeme) :
    walk .condition depth index (l :: rest) =
      .expectedCondition (index + 1) l.text :: stopBeforeCondition depth := by
  rw [walk.eq_def]
  simp only [hopening, if_false]
  split
  next => simp [startsCondition, hoperand]
  next => rfl

/-- A lexeme that is no condition is treated the same in both lists. -/
theorem single {content : Content} (hoperand : content.1.isOperand = false)
    (hfront : front.map Lexeme.content = [content])
    (hfront' : front'.map Lexeme.content = [content]) (h : WalkAlike rest rest') :
    WalkAlike (front ++ rest) (front' ++ rest') := by
  -- The lexemes may have different places, which the walk does not see.
  obtain ⟨l, rfl, rfl⟩ := List.map_eq_singleton_iff.mp hfront
  obtain ⟨l', rfl, hcontent⟩ := List.map_eq_singleton_iff.mp hfront'
  obtain ⟨hkind, htext⟩ : l'.kind = l.kind ∧ l'.text = l.text := Prod.mk.inj hcontent
  have hoperand : l.kind.isOperand = false := hoperand
  intro expected depth index
  cases expected with
  | condition =>
      by_cases hopening : l.kind = .paren .opening
      · have hopening' : l'.kind = .paren .opening := hkind.trans hopening
        exact (walk_opening hopening depth index rest).trans
          ((h _ _ _).trans (walk_opening hopening' depth index rest').symm)
      · have hstop := walk_stop hoperand hopening depth index rest
        have hstop' := walk_stop (hkind ▸ hoperand) (hkind ▸ hopening) depth index rest'
        rw [htext] at hstop'
        exact hstop.trans hstop'.symm
  | connective =>
      change walk .connective depth index (l :: rest) = walk .connective depth index (l' :: rest')
      simp only [walk, hkind, htext]
      split
      next => exact h _ _ _
      next =>
        cases depth with
        | zero => rfl
        | succ depth => exact h _ _ _
      next => rfl

/-- The value of a condition makes no difference: where a condition is expected
it is passed over, and elsewhere the walk stops at the property. -/
theorem condition {property : Text} {operator : Operator} {value value' : Content}
    (hfront : front.map Lexeme.content = [(.word, property), (.word, operator.literal), value])
    (hfront' : front'.map Lexeme.content = [(.word, property), (.word, operator.literal), value'])
    (h : WalkAlike rest rest') : WalkAlike (front ++ rest) (front' ++ rest') := by
  obtain ⟨p, o, v, rfl, hp, hcondition⟩ := exists_isCondition hfront
  obtain ⟨p', o', v', rfl, hp', hcondition'⟩ := exists_isCondition hfront'
  intro expected depth index
  cases expected with
  | condition =>
      exact (walk_condition hcondition depth index rest).trans
        ((h _ _ _).trans (walk_condition hcondition' depth index rest').symm)
  | connective =>
      obtain ⟨hkind, htext⟩ := Prod.mk.inj hp
      obtain ⟨hkind', htext'⟩ := Prod.mk.inj hp'
      simp only [List.cons_append, walk, hkind, hkind', htext, htext']

/-- The lexemes of a call and of one alike. -/
theorem call {c d : Call} (halike : c.Alike d) (hstructured : c.IsStructured)
    (hfront : front.map Lexeme.content = c.contents)
    (hfront' : front'.map Lexeme.content = d.contents) (h : WalkAlike rest rest') :
    WalkAlike (front ++ rest) (front' ++ rest') := by
  -- A call that writes nothing leaves the walk where it is.
  have hidle : c.contents = [] → d = c → WalkAlike (front ++ rest) (front' ++ rest') := by
    rintro hnil rfl
    rw [hnil, List.map_eq_nil_iff] at hfront hfront'
    rwa [hfront, hfront']
  cases halike with
  | value => exact condition hfront hfront' h
  | same =>
      cases hstructured with
      | op operator value quoted _ =>
          cases value with
          | none => exact hidle rfl rfl
          | some value => exact condition hfront hfront' h
      | @inList property operator values _ _ =>
          by_cases hne : values.filterMap id = []
          · exact hidle (Call.contents_inList_of_isEmpty property operator hne) rfl
          · rw [Call.contents_inList property operator hne] at hfront hfront'
            exact condition hfront hfront' h
      | connective j => exact single rfl hfront hfront' h
      | paren p => exact single rfl hfront hfront' h

end WalkAlike

/-- The walk reports the same over the lexemes of alike programs. -/
theorem walkAlike_of_alike (h : List.Forall₂ Call.Alike first second)
    (hstructured : ∀ c ∈ first, c.IsStructured) {left right : List Lexeme}
    (hleft : left.map Lexeme.content = first.flatMap Call.contents)
    (hright : right.map Lexeme.content = second.flatMap Call.contents) :
    WalkAlike left right := by
  induction h generalizing left right with
  | nil =>
      rw [List.flatMap_nil, List.map_eq_nil_iff] at hleft hright
      rw [hleft, hright]
      exact fun _ _ _ => rfl
  | cons halike _ ih =>
      obtain ⟨hc, hrest⟩ := List.forall_mem_cons.mp hstructured
      rw [List.flatMap_cons] at hleft hright
      obtain ⟨front, rest, rfl, hfront, hrestLeft⟩ := List.map_eq_append_iff.mp hleft
      obtain ⟨front', rest', rfl, hfront', hrestRight⟩ := List.map_eq_append_iff.mp hright
      exact .call halike hc hfront hfront' (ih hrest hrestLeft hrestRight)

/-! ## Problems -/

theorem queryBody_eq_nil_iff {query : Text} :
    queryBody query = [] ↔ contents (queryBody query) = [] := by
  refine ⟨fun h => by rw [h, contents_nil], fun h => ?_⟩
  rw [queryBody] at h ⊢
  rw [← (isFlush_stripMarker (isFlush_trim query)).trimStart_eq, trimStart_eq_nil_iff]
  exact contents_eq_nil_iff.mp h

theorem problems_eq_of_walkAlike {left right : Text}
    (hnil : contents (queryBody left) = [] ↔ contents (queryBody right) = [])
    (h : WalkAlike (lex (queryBody left)) (lex (queryBody right))) :
    problems left = problems right := by
  rw [← queryBody_eq_nil_iff, ← queryBody_eq_nil_iff] at hnil
  simp only [problems, List.isEmpty_iff, hnil, lexemeProblems, h .condition 0 0]

/-- Queries built by programs that differ in the values of conditions only have
as many lexemes, the same ones but for these values, and the same problems. Where
they may differ, each has its own values, rendered, one a place. -/
theorem build_of_alike {options : Options} (hplain : options.encodeUri = false)
    (halike : List.Forall₂ Call.Alike first second)
    (hstructured : ∀ c ∈ first, c.IsStructured) :
    (lex ((Builder.ofOptions options).runAll first).build).length =
        (lex ((Builder.ofOptions options).runAll second).build).length ∧
      (∀ i : Nat, (querySkeleton options first)[i]? ≠ some none →
        (contents ((Builder.ofOptions options).runAll first).build)[i]? =
          (contents ((Builder.ofOptions options).runAll second).build)[i]?) ∧
      contents ((Builder.ofOptions options).runAll first).build =
        fill (querySkeleton options first) (queryValues first) ∧
      contents ((Builder.ofOptions options).runAll second).build =
        fill (querySkeleton options first) (queryValues second) ∧
      problems ((Builder.ofOptions options).runAll first).build =
        problems ((Builder.ofOptions options).runAll second).build := by
  have hstructured' := isStructured_of_alike halike hstructured
  have hfill := contents_build_eq_fill hplain hstructured
  have hfill' := contents_build_eq_fill hplain hstructured'
  rw [← querySkeleton_eq_of_alike halike] at hfill'
  have hleft := contents_build hplain hstructured
  have hright := contents_build hplain hstructured'
  generalize ((Builder.ofOptions options).runAll first).build = left at hfill hleft ⊢
  generalize ((Builder.ofOptions options).runAll second).build = right at hfill' hright ⊢
  have hvisible := forall₂_visible halike
  have hfits : Fits (querySkeleton options first) (contents left) := by
    rw [hleft]
    exact (fits_map_some _).append (fits_flatMap_contents (visible first))
  have hfits' : Fits (querySkeleton options first) (contents right) := by
    rw [hright]
    exact (fits_map_some _).append (fits_skeleton_of_alike hvisible)
  refine ⟨?_, fun i hi => hfits.getElem?_eq hfits' hi, hfill, hfill', ?_⟩
  · have hlength := hfits.length_eq.symm.trans hfits'.length_eq
    rwa [contents, contents, List.length_map, List.length_map] at hlength
  · have hbody := contents_queryBody hleft
      (unmarked_flatMap_contents (isStructured_of_mem_visible hstructured))
    have hbody' := contents_queryBody hright
      (unmarked_flatMap_contents (isStructured_of_mem_visible hstructured'))
    have hwalk := walkAlike_of_alike hvisible (isStructured_of_mem_visible hstructured) hbody hbody'
    refine problems_eq_of_walkAlike ?_ hwalk
    have hlength := (fits_flatMap_contents (visible first)).length_eq.symm.trans
      (fits_skeleton_of_alike hvisible).length_eq
    rw [hbody, hbody', ← List.length_eq_zero_iff, ← List.length_eq_zero_iff, hlength]

/-- A string that looks like structure does not close the parenthesis that a
number leaves open. -/
theorem problems_of_misleading_string :
    problems ((Builder.ofOptions ⟨false, true⟩).runAll
        [.paren .opening, .op "Age".toList .equals (some (.integer 3)) false,
          .connective .and]).build =
      problems ((Builder.ofOptions ⟨false, true⟩).runAll
        [.paren .opening, .op "Age".toList .equals (some (.string "\") || (\\\n".toList)) false,
          .connective .and]).build := by
  have hage : IsName "Age".toList := by decide
  have halike := List.Forall₂.cons (Call.Alike.same (.paren .opening))
    (.cons (.value "Age".toList .equals (.integer 3) (.string "\") || (\\\n".toList) false)
      (.cons (.same (.connective .and)) .nil))
  have hstructured : ∀ c ∈ [Call.paren .opening,
      .op "Age".toList .equals (some (.integer 3)) false, .connective .and], c.IsStructured := by
    rw [List.forall_mem_cons, List.forall_mem_cons, List.forall_mem_singleton]
    exact ⟨.paren .opening, .op .equals (some (.integer 3)) false hage, .connective .and⟩
  exact (@build_of_alike _ _ ⟨false, true⟩ rfl halike hstructured).2.2.2.2

end FilterQuery
