import FilterQuery.Proofs.Grammar
import FilterQuery.Proofs.Writing
/-!
# Balanced programs build well-formed queries

A balanced program is built like the grammar: terms with connectives between
them, where a term is a condition, a group, or what another balanced program has
built. What such a program writes is a query wherever it is written, and the
connectives that dangle after it are dropped in the end.
-/

namespace FilterQuery

open Text

/-! ## Lexemes of a query -/

/-- Lexemes that are a query, that do not begin with the marker and that do not
end with an opening parenthesis or like a connective. -/
structure IsFragment (read : List Content) : Prop where
  isQuery : ∀ lexemes : List Lexeme, lexemes.map Lexeme.content = read → IsQuery lexemes
  ne_nil : read ≠ []
  unmarked : Unmarked read
  clear : ∀ content ∈ read.getLast?, IsClear content.2
  closed : ∀ content ∈ read.getLast?, content.1 ≠ .paren .opening

namespace IsFragment

variable {first rest inside : List Content}

theorem joined (hfirst : IsFragment first) (c : Connective) (hrest : IsFragment rest) :
    IsFragment (first ++ (.connective c, c.literal) :: rest) where
  isQuery lexemes hlexemes := by
    obtain ⟨left, right, rfl, hleft, hright⟩ := List.map_eq_append_iff.mp hlexemes
    obtain ⟨joiner, after, rfl, hjoiner, hafter⟩ := List.map_eq_cons_iff.mp hright
    have hkind : joiner.kind = .connective c := congrArg Prod.fst hjoiner
    exact (hfirst.isQuery left hleft).join hkind (hrest.isQuery after hafter)
  ne_nil := by simp
  unmarked := by
    rw [Unmarked, List.head?_append_of_ne_nil _ hfirst.ne_nil]
    exact hfirst.unmarked
  clear := by
    rw [List.append_cons, List.getLast?_append_of_ne_nil _ hrest.ne_nil]
    exact hrest.clear
  closed := by
    rw [List.append_cons, List.getLast?_append_of_ne_nil _ hrest.ne_nil]
    exact hrest.closed

theorem group (h : IsFragment inside) : IsFragment (groupContents inside) where
  isQuery lexemes hlexemes := by
    obtain ⟨front, back, rfl, hfront, hback⟩ := List.map_eq_append_iff.mp hlexemes
    obtain ⟨left, body, rfl, hleft, hbody⟩ := List.map_eq_cons_iff.mp hfront
    obtain ⟨right, rfl, hright⟩ := List.map_eq_singleton_iff.mp hback
    have hopening : left.kind = .paren .opening := congrArg Prod.fst hleft
    have hclosing : right.kind = .paren .closing := congrArg Prod.fst hright
    exact .alone (.group hopening (h.isQuery body hbody) hclosing)
  ne_nil := by simp [groupContents]
  unmarked := unmarked_cons.mpr (by decide)
  clear := by
    intro content hcontent
    rw [groupContents, List.getLast?_concat] at hcontent
    obtain rfl := Option.some.inj hcontent
    exact isClear_concat (by decide) []
  closed := by
    intro content hcontent
    rw [groupContents, List.getLast?_concat] at hcontent
    obtain rfl := Option.some.inj hcontent
    decide

theorem condition {property : Text} (hproperty : IsName property) (operator : Operator)
    {value : Content} (hvalue : IsClear value.2) (hkind : value.1 ≠ .paren .opening) :
    IsFragment [(.word, property), (.word, operator.literal), value] where
  isQuery lexemes hlexemes := by
    obtain ⟨p, o, v, rfl, -, hcondition⟩ := exists_isCondition hlexemes
    exact .alone (.condition hcondition)
  ne_nil := by simp
  unmarked := unmarked_cons.mpr hproperty.no_marker
  clear := by
    intro content hcontent
    obtain rfl := Option.some.inj hcontent
    exact hvalue
  closed := by
    intro content hcontent
    obtain rfl := Option.some.inj hcontent
    exact hkind

theorem listCondition {property : Text} (hproperty : IsName property) (operator : ListOperator)
    (values : List Scalar) : IsFragment (listConditionContents property operator values) :=
  condition hproperty operator.toOperator (isClear_listLiteral values) (by simp)

theorem clear_append (h : IsFragment inside) (lead : List Content) :
    ∀ content ∈ (lead ++ inside).getLast?, IsClear content.2 := by
  rw [List.getLast?_append_of_ne_nil _ h.ne_nil]
  exact h.clear

/-- A text of such lexemes, with or without the marker, is a well-formed
query. -/
theorem isWellFormed (h : IsFragment inside) {options : Options} {query : Text}
    (hcontents : contents query = options.lead ++ inside) : isWellFormed query = true :=
  isWellFormed_of_isQuery (h.isQuery _ (contents_queryBody hcontents h.unmarked))

end IsFragment

/-! ## Balanced programs -/

/-- The programs that write a query or a term in a balanced way. A builder whose
text is taken over may have idle calls in its program. -/
inductive IsBalanced : Phrase → List Call → Prop
  | alone {program : List Call} : IsBalanced .term program → IsBalanced .query program
  | joined {first rest : List Call} (c : Connective) :
      IsBalanced .term first → IsBalanced .query rest →
        IsBalanced .query (first ++ .connective c :: rest)
  | condition {property : Text} (operator : Operator) (value : Scalar) (quoted : Bool) :
      IsName property → IsBalanced .term [.op property operator (some value) quoted]
  | list {property : Text} (operator : ListOperator) {values : List (Option Scalar)} :
      IsName property → values.filterMap id ≠ [] → HasWordStrings (values.filterMap id) →
        IsBalanced .term [.inList property operator values]
  | group {program : List Call} :
      IsBalanced .query program →
        IsBalanced .term (.paren .opening :: program ++ [.paren .closing])
  | concat {program : List Call} (options : Options) :
      IsBalanced .query (program.filter fun c => !c.isIdle) →
        IsBalanced .term [.concat ((Builder.ofOptions options).runAll program) none]
  | merge {program : List Call} (options : Options) :
      IsBalanced .query (program.filter fun c => !c.isIdle) →
        IsBalanced .term [.merge ((Builder.ofOptions options).runAll program) none]

/-- The program adds the lexemes at the end of whatever a builder holds. -/
def Writes (program : List Call) (more : List Content) : Prop :=
  ∀ (b : Builder) (read : List Content), IsPiece b.text read → IsFlush b.text →
    IsPiece (b.runAll program).text (read ++ more) ∧ IsFlush (b.runAll program).text

namespace Writes

variable {first rest program : List Call} {readFirst readRest more : List Content}

theorem append (hfirst : Writes first readFirst) (hrest : Writes rest readRest) :
    Writes (first ++ rest) (readFirst ++ readRest) := by
  intro b read hpiece hflush
  obtain ⟨hpiece, hflush⟩ := hfirst b read hpiece hflush
  rw [Builder.runAll_append, ← List.append_assoc]
  exact hrest _ _ hpiece hflush

theorem paren (p : Paren) : Writes [.paren p] [(.paren p, p.literal)] :=
  fun _ _ hpiece hflush => ⟨Builder.isPiece_paren_call hpiece p, Builder.isFlush_paren hflush p⟩

/-- A connective needs something before it, or it would come to the front. -/
theorem joined (hfirst : Writes first readFirst) (hne : readFirst ≠ []) (c : Connective)
    (hrest : Writes rest readRest) :
    Writes (first ++ .connective c :: rest)
      (readFirst ++ (.connective c, c.literal) :: readRest) := by
  intro b read hpiece hflush
  obtain ⟨hpiece, hflush⟩ := hfirst b read hpiece hflush
  have hblank : (b.runAll first).text.allBlank = false := by
    rw [Bool.eq_false_iff, Ne, ← contents_eq_nil_iff, hpiece.contents_eq]
    exact List.append_ne_nil_of_right_ne_nil read hne
  have hjoined := hrest _ _ (Builder.isPiece_connective_call hpiece c)
    (Builder.isFlush_connective hflush hblank c)
  rw [Builder.runAll_append]
  rw [List.append_assoc, List.append_assoc, List.singleton_append] at hjoined
  exact hjoined

/-- The text of a builder, with or without the marker, is written as a group. -/
theorem concat (h : Writes program more) (hmore : IsFragment more) (options : Options) :
    Writes [.concat ((Builder.ofOptions options).runAll program) none] (groupContents more) := by
  intro b read hpiece hflush
  obtain ⟨hother, -⟩ :=
    h _ _ (Builder.isPiece_ofOptions options) (Builder.isFlush_ofOptions options)
  exact ⟨Builder.isPiece_concat hpiece hother hmore.unmarked, Builder.isFlush_concat hflush _⟩

theorem merge (h : Writes program more) (hmore : IsFragment more) (options : Options) :
    Writes [.merge ((Builder.ofOptions options).runAll program) none] more := by
  intro b read hpiece hflush
  -- The marker is taken off only where it comes first, so the text has to be flush.
  obtain ⟨hother, hfront⟩ :=
    h _ _ (Builder.isPiece_ofOptions options) (Builder.isFlush_ofOptions options)
  exact ⟨Builder.isPiece_append hpiece (hother.stripMarker (fun _ => hfront) hmore.unmarked),
    Builder.isFlush_append hflush (isFlush_stripMarker hfront)⟩

theorem of_filter (h : Writes (program.filter fun c => !c.isIdle) more) : Writes program more := by
  intro b read hpiece hflush
  have hwritten := h b read hpiece hflush
  rwa [Builder.runAll_filter] at hwritten

end Writes

/-- A balanced program writes a query. -/
theorem IsBalanced.exists_writes {phrase : Phrase} {program : List Call}
    (h : IsBalanced phrase program) : ∃ more, IsFragment more ∧ Writes program more := by
  induction h with
  | alone _ ih => exact ih
  | joined c _ _ ihfirst ihrest =>
      obtain ⟨readFirst, hfirst, hwritesFirst⟩ := ihfirst
      obtain ⟨readRest, hrest, hwritesRest⟩ := ihrest
      exact ⟨_, hfirst.joined c hrest, hwritesFirst.joined hfirst.ne_nil c hwritesRest⟩
  | @condition property operator value quoted hproperty =>
      have hclear := Scalar.isClear_render (if quoted then value.stringified else value)
      have hkind := Scalar.lexemeKind_ne_paren (if quoted then value.stringified else value)
      refine ⟨conditionContents property operator _,
        .condition hproperty operator hclear (hkind .opening), ?_⟩
      intro b read hpiece hflush
      exact ⟨Builder.isPiece_op hpiece hproperty.toIsBareword operator value quoted,
        Builder.isFlush_op hflush hproperty.toIsBareword operator value quoted⟩
  | @list property operator values hproperty hne hvalues =>
      refine ⟨_, .listCondition hproperty operator (values.filterMap id), ?_⟩
      intro b read hpiece hflush
      exact ⟨Builder.isPiece_inList hpiece hproperty.toIsBareword operator hne hvalues,
        Builder.isFlush_inList hflush hproperty.toIsBareword operator values⟩
  | group _ ih =>
      obtain ⟨inside, hinside, hwrites⟩ := ih
      refine ⟨_, hinside.group, ?_⟩
      exact ((Writes.paren .opening).append hwrites).append (.paren .closing)
  | concat options _ ih =>
      obtain ⟨more, hmore, hwrites⟩ := ih
      exact ⟨_, hmore.group, hwrites.of_filter.concat hmore options⟩
  | merge options _ ih =>
      obtain ⟨more, hmore, hwrites⟩ := ih
      exact ⟨more, hmore, hwrites.of_filter.merge hmore options⟩

/-! ## The finished query -/

theorem Builder.runAll_connectives (b : Builder) (joiners : List Connective) :
    b.runAll (joiners.map Call.connective) = joiners.foldl connective b := List.foldl_map

/-- The query that a balanced program builds, with idle calls anywhere and any
number of connectives after it, is well formed. -/
theorem isWellFormed_build_of_isBalanced {options : Options} (hplain : options.encodeUri = false)
    {program core : List Call} {dangling : List Connective} (hcore : IsBalanced .query core)
    (hprogram : program.filter (fun c => !c.isIdle) = core ++ dangling.map Call.connective) :
    isWellFormed ((Builder.ofOptions options).runAll program).build = true := by
  -- What the core writes is a query that does not end like a connective, so it is what is left
  -- of the text when the connectives after it are dropped.
  obtain ⟨more, hmore, hwrites⟩ := hcore.exists_writes
  obtain ⟨hpiece, -⟩ :=
    hwrites _ _ (Builder.isPiece_ofOptions options) (Builder.isFlush_ofOptions options)
  rw [Builder.build_runAll hplain, ← Builder.runAll_filter, hprogram, Builder.runAll_append,
    Builder.runAll_connectives, Builder.plainQuery_connectives]
  generalize (Builder.ofOptions options).runAll core = b at hpiece
  exact hmore.isWellFormed (Builder.contents_plainQuery hpiece (hmore.clear_append options.lead))

/-- A group of a string that looks like structure and of what a marked builder
wrote, with idle calls inside and connectives after it. -/
theorem isWellFormed_build_group :
    isWellFormed ((Builder.ofOptions ⟨false, true⟩).runAll
      [.op "Age".toList .equals none false, .paren .opening,
        .op "Name".toList .contains (some (.string "\" && (\\\n".toList)) true,
        .addCondition [' '], .connective .or,
        .concat ((Builder.ofOptions ⟨true, true⟩).runAll
          [.append [] none,
            .inList "City".toList .isIn [none, some (.string "\"Oslo".toList)]]) none,
        .paren .closing, .connective .and, .connective .or]).build = true := by
  have hname : IsName "Name".toList := by decide
  have hcity : IsName "City".toList := by decide
  have hvalues : HasWordStrings [.string "\"Oslo".toList] := by decide
  have hother : IsBalanced .query (List.filter (fun c => !c.isIdle)
      [.append [] none, .inList "City".toList .isIn [none, some (.string "\"Oslo".toList)]]) :=
    .alone (.list .isIn hcity (List.cons_ne_nil _ _) hvalues)
  have hcore := IsBalanced.alone (.group (.joined .or
    (.condition .contains (.string "\" && (\\\n".toList) true hname)
    (.alone (.concat ⟨true, true⟩ hother))))
  exact @isWellFormed_build_of_isBalanced ⟨false, true⟩ rfl _ _ [.and, .or] hcore rfl

end FilterQuery
