import FilterQuery.Proofs.Writing
/-!
# Replaying tokens

What a token is recorded as when it is replayed does not depend on the builder:
a value of a pattern operator becomes a string, text loses its marker, and an
empty list or a blank text is not recorded at all. A token does the same as what
it is recorded as. So the tokens that a replay records rebuild what it built.
-/

namespace FilterQuery

/-! ## What a token is recorded as -/

/-- The token that replaying a token records, if any. -/
def Token.recorded? : Token → Option Token
  | .condition property operator value =>
      some (.condition property operator
        (if operator.isPattern then value.stringified else value))
  | .listCondition property operator values =>
      if values.isEmpty then none else some (.listCondition property operator values)
  | .connective c => some (.connective c)
  | .paren p => some (.paren p)
  | .raw text =>
      if (stripMarker text).allBlank then none else some (.raw (stripMarker text))

/-- The tokens that a builder has because of its options. -/
def Options.leadTokens (options : Options) : List Token :=
  if options.marked then [.raw marker] else []

namespace Token

theorem recorded?_listCondition_eq_some {property : Text} {operator : ListOperator}
    {values : List Scalar} {recorded : Token} :
    (listCondition property operator values).recorded? = some recorded ↔
      values ≠ [] ∧ listCondition property operator values = recorded := by
  simp [recorded?]

theorem recorded?_raw_eq_some {text : Text} {recorded : Token} :
    (raw text).recorded? = some recorded ↔
      (stripMarker text).allBlank = false ∧ raw (stripMarker text) = recorded := by
  simp [recorded?]

theorem recorded?_of_mem_leadTokens {options : Options} {token : Token}
    (h : token ∈ options.leadTokens) : token.recorded? = none := by
  unfold Options.leadTokens at h
  split at h
  next =>
    rw [List.mem_singleton.mp h]
    rfl
  next => exact absurd h List.not_mem_nil

end Token

@[simp] theorem Scalar.stringified_stringified (value : Scalar) :
    value.stringified.stringified = value.stringified := by
  cases value <;> rfl

namespace Builder

theorem tokens_ofOptions (options : Options) :
    (ofOptions options).tokens = options.leadTokens := by
  unfold ofOptions Options.leadTokens
  dsimp only
  split <;> rfl

theorem filterMap_map_some (values : List Scalar) : (values.map some).filterMap id = values := by
  rw [List.filterMap_map]
  exact List.filterMap_some

theorem inList_present (b : Builder) (property : Text) (operator : ListOperator)
    {values : List Scalar} (h : values ≠ []) :
    b.inList property operator (values.map some) =
      b.push (renderListCondition property operator values ++ [' '])
        (.listCondition property operator values) := by
  unfold inList
  rw [filterMap_map_some]
  cases values with
  | nil => exact absurd rfl h
  | cons value rest => rfl

theorem append_of_not_blank {fragment : Text} (h : (stripMarker fragment).allBlank = false)
    (b : Builder) (joiner : Option Connective) :
    b.append fragment joiner =
      (b.separated joiner).push (stripMarker fragment) (.raw (stripMarker fragment)) := by
  simp [append, h]

theorem tokens_separated_none (b : Builder) : (b.separated none).tokens = b.tokens := by
  unfold separated
  dsimp only
  split <;> rfl

theorem tokens_replayRaw (b : Builder) (text : Text) :
    (b.replayRaw text).tokens = (b.append text none).tokens := by
  unfold replayRaw
  dsimp only
  split <;> rfl

theorem endsBlank_append {right : Text} (h : right ≠ []) (left : Text) :
    endsBlank (left ++ right) = endsBlank right := by
  rw [endsBlank, endsBlank, List.getLast?_append_of_ne_nil left h]

/-- Text that is replayed is written with a space after it, unless it ends with
white space. -/
theorem replayRaw_of_not_blank {text : Text} (h : (stripMarker text).allBlank = false)
    (b : Builder) :
    b.replayRaw text =
      (b.separated none).push
        (stripMarker text ++ if endsBlank (stripMarker text) then [] else [' '])
        (.raw (stripMarker text)) := by
  have hne : stripMarker text ≠ [] := by
    intro hnil
    simp [hnil, Text.allBlank] at h
  have hends := endsBlank_append hne (b.separated none).text
  cases hblank : endsBlank (stripMarker text) <;>
    simp [replayRaw, append_of_not_blank h, push, tokens_separated_none, hends, hblank]

/-- Appending looks at a fragment without its marker only. -/
theorem append_congr {left right : Text} (h : stripMarker left = stripMarker right)
    (b : Builder) (joiner : Option Connective) : b.append left joiner = b.append right joiner := by
  simp only [append, h]

theorem replayRaw_congr {left right : Text} (h : stripMarker left = stripMarker right)
    (b : Builder) : b.replayRaw left = b.replayRaw right := by
  simp only [replayRaw, append_congr h]

/-! ## One token -/

variable {token : Token}

theorem apply_of_recorded?_eq_none (h : token.recorded? = none) (b : Builder) :
    b.apply token = b := by
  cases token with
  | condition | connective | paren => simp [Token.recorded?] at h
  | listCondition property operator values =>
      have hnil : values = [] := by simpa [Token.recorded?] using h
      subst hnil
      rfl
  | raw text =>
      have hblank : (stripMarker text).allBlank = true := by
        by_contra hblank
        simp [Token.recorded?, hblank] at h
      exact replayRaw_of_blank hblank b

theorem tokens_apply (b : Builder) (token : Token) :
    (b.apply token).tokens = b.tokens ++ token.recorded?.toList := by
  cases hrecorded : token.recorded? with
  | none => rw [apply_of_recorded?_eq_none hrecorded, Option.toList_none, List.append_nil]
  | some recorded =>
      cases token with
      | condition property operator value =>
          obtain rfl := Option.some.inj hrecorded
          rfl
      | listCondition property operator values =>
          obtain ⟨hne, rfl⟩ := Token.recorded?_listCondition_eq_some.mp hrecorded
          exact congrArg tokens (inList_present b property operator hne)
      | connective c =>
          obtain rfl := Option.some.inj hrecorded
          rfl
      | paren p =>
          obtain rfl := Option.some.inj hrecorded
          rfl
      | raw text =>
          obtain ⟨hblank, rfl⟩ := Token.recorded?_raw_eq_some.mp hrecorded
          rw [apply, tokens_replayRaw, append_of_not_blank hblank]
          exact congrArg (· ++ _) (tokens_separated_none b)

/-- What a token is recorded as does the same as the token, if there is only one
marker to take off. -/
theorem apply_recorded? {recorded : Token} (h : token.recorded? = some recorded)
    (hmarker : ∀ text, token = .raw text → ¬ marker <+: stripMarker text) (b : Builder) :
    b.apply recorded = b.apply token := by
  cases token with
  | condition property operator value =>
      obtain rfl := Option.some.inj h
      cases hpattern : operator.isPattern <;> simp [apply, op, hpattern]
  | listCondition property operator values =>
      obtain ⟨-, rfl⟩ := Token.recorded?_listCondition_eq_some.mp h
      rfl
  | connective c => rw [← Option.some.inj h]
  | paren p => rw [← Option.some.inj h]
  | raw text =>
      obtain ⟨-, rfl⟩ := Token.recorded?_raw_eq_some.mp h
      exact replayRaw_congr (stripMarker_eq_self (hmarker text rfl)) b

/-! ## All tokens -/

/-- What a replay adds to the tokens of a builder. -/
theorem tokens_foldl_apply (b : Builder) (tokens : List Token) :
    (tokens.foldl apply b).tokens = b.tokens ++ tokens.filterMap Token.recorded? := by
  induction tokens generalizing b with
  | nil => rw [List.foldl_nil, List.filterMap_nil, List.append_nil]
  | cons token tokens ih =>
      rw [List.foldl_cons, ih, tokens_apply, List.append_assoc]
      congr 1
      cases hrecorded : token.recorded? with
      | none => rw [List.filterMap_cons_none hrecorded, Option.toList_none, List.nil_append]
      | some recorded =>
          rw [List.filterMap_cons_some hrecorded, Option.toList_some, List.singleton_append]

/-- The tokens that a replay records are those of the options and what the
tokens are recorded as. -/
theorem tokens_ofTokens (options : Options) (tokens : List Token) :
    (ofTokens options tokens).tokens =
      options.leadTokens ++ tokens.filterMap Token.recorded? := by
  rw [ofTokens, tokens_foldl_apply, tokens_ofOptions]

theorem options_ofTokens (options : Options) (tokens : List Token) :
    (ofTokens options tokens).options = options :=
  (edits_foldl_apply _ tokens).options_eq.trans (options_ofOptions options)

theorem foldl_apply_of_recorded?_eq_none {tokens : List Token}
    (h : ∀ token ∈ tokens, token.recorded? = none) (b : Builder) : tokens.foldl apply b = b := by
  induction tokens with
  | nil => rfl
  | cons token tokens ih =>
      obtain ⟨htoken, hrest⟩ := List.forall_mem_cons.mp h
      rw [List.foldl_cons, apply_of_recorded?_eq_none htoken, ih hrest]

/-- The tokens of the options do nothing when they are replayed. -/
theorem ofTokens_leadTokens_append (options : Options) (tokens : List Token) :
    ofTokens options (options.leadTokens ++ tokens) = ofTokens options tokens := by
  rw [ofTokens, List.foldl_append,
    foldl_apply_of_recorded?_eq_none fun _ => Token.recorded?_of_mem_leadTokens]
  rfl

theorem foldl_apply_recorded? {tokens : List Token}
    (h : ∀ text, .raw text ∈ tokens → ¬ marker <+: stripMarker text) (b : Builder) :
    (tokens.filterMap Token.recorded?).foldl apply b = tokens.foldl apply b := by
  induction tokens generalizing b with
  | nil => rfl
  | cons token tokens ih =>
      have hrest : ∀ text, .raw text ∈ tokens → ¬ marker <+: stripMarker text :=
        fun text htext => h text (List.mem_cons_of_mem _ htext)
      cases hrecorded : token.recorded? with
      | none =>
          rw [List.filterMap_cons_none hrecorded, List.foldl_cons,
            apply_of_recorded?_eq_none hrecorded, ih hrest]
      | some recorded =>
          have hmarker : ∀ text, token = .raw text → ¬ marker <+: stripMarker text := by
            rintro text rfl
            exact h text List.mem_cons_self
          rw [List.filterMap_cons_some hrecorded, List.foldl_cons, List.foldl_cons,
            apply_recorded? hrecorded hmarker, ih hrest]

/-- Replaying what a replay has recorded gives the same builder, its text, its
tokens and its options, unless a text had a second marker. -/
theorem ofTokens_tokens_ofTokens {options : Options} {tokens : List Token}
    (h : ∀ text, .raw text ∈ tokens → ¬ marker <+: stripMarker text) :
    ofTokens options (ofTokens options tokens).tokens = ofTokens options tokens := by
  rw [tokens_ofTokens, ofTokens_leadTokens_append]
  exact foldl_apply_recorded? h (ofOptions options)

/-- Tokens of every kind, some of which are recorded in another form or not at
all. -/
theorem ofTokens_tokens_ofTokens_mixed :
    ofTokens ⟨true, true⟩ (ofTokens ⟨true, true⟩
        [.raw marker, .condition "Name".toList .contains (.integer 5), .connective .or,
          .raw "\t".toList, .listCondition "City".toList .isIn [],
          .condition "Age".toList .equals (.float (0 / 0)), .paren .closing,
          .raw "Filters=  && A == \"Filters=\"".toList]).tokens =
      ofTokens ⟨true, true⟩
        [.raw marker, .condition "Name".toList .contains (.integer 5), .connective .or,
          .raw "\t".toList, .listCondition "City".toList .isIn [],
          .condition "Age".toList .equals (.float (0 / 0)), .paren .closing,
          .raw "Filters=  && A == \"Filters=\"".toList] := by
  refine ofTokens_tokens_ofTokens ?_
  intro text htext
  simp only [List.mem_cons, Token.raw.injEq, reduceCtorEq, List.not_mem_nil, or_false,
    false_or] at htext
  rcases htext with rfl | rfl | rfl <;> decide

end Builder

end FilterQuery
