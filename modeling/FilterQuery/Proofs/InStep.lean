import FilterQuery.Proofs.Edits
import FilterQuery.Proofs.Trimming
/-!
# Text and tokens in step

Every edit of a builder adds to its text what the token it records is written
as, and else only adds or takes off white space. So the tokens of a builder say
at any time what its text says, white space apart.
-/

namespace FilterQuery

namespace Text

/-- A text without its white space. -/
def unspaced (text : Text) : Text := text.filter fun c => !isBlank c

@[simp] theorem unspaced_append (left right : Text) :
    unspaced (left ++ right) = unspaced left ++ unspaced right := List.filter_append ..

theorem unspaced_eq_nil_iff {text : Text} : text.unspaced = [] ↔ text.allBlank = true := by
  simp [unspaced, List.filter_eq_nil_iff, allBlank_iff]

theorem unspaced_of_allBlank {gap : Text} (h : gap.allBlank = true) : unspaced gap = [] :=
  unspaced_eq_nil_iff.mpr h

theorem unspaced_nil : unspaced [] = [] := rfl

@[simp] theorem unspaced_space_cons (text : Text) : unspaced (' ' :: text) = unspaced text := by
  have hspace : unspaced [' '] = [] := unspaced_of_allBlank (by decide)
  rw [← List.singleton_append, unspaced_append, hspace, List.nil_append]

@[simp] theorem unspaced_trimEnd (text : Text) : text.trimEnd.unspaced = text.unspaced := by
  obtain ⟨gap, hgap, htext⟩ := exists_trimEnd_append text
  conv_rhs => rw [htext, unspaced_append, unspaced_of_allBlank hgap, List.append_nil]

theorem unspaced_joined_space (parts : List Text) :
    (joined [' '] parts).unspaced = parts.flatMap unspaced := by
  fun_induction joined [' '] parts with
  | case1 => rfl
  | case2 part => simp
  | case3 part next rest ih => simp [ih]

end Text

open Text

theorem unspaced_renderTokens (tokens : List Token) :
    (renderTokens tokens).unspaced = tokens.flatMap fun token => token.render.unspaced := by
  rw [renderTokens, unspaced_joined_space, List.flatMap_map]

namespace Builder

/-- The text of a builder and its tokens say the same, white space apart. -/
def IsInStep (b : Builder) : Prop := b.text.unspaced = (renderTokens b.tokens).unspaced

/-- What is pushed has to be the token that is pushed with it. -/
theorem IsInStep.push {b : Builder} (h : b.IsInStep) {piece : Text} {token : Token}
    (hpiece : piece.unspaced = token.render.unspaced) : (b.push piece token).IsInStep := by
  change (b.text ++ piece).unspaced = (renderTokens (b.tokens ++ [token])).unspaced
  rw [IsInStep, unspaced_renderTokens] at h
  rw [unspaced_append, h, hpiece, unspaced_renderTokens, List.flatMap_append,
    List.flatMap_singleton]

/-- White space may be added to the text or taken off. -/
theorem IsInStep.of_text {b : Builder} (h : b.IsInStep) {text : Text}
    (htext : text.unspaced = b.text.unspaced) : IsInStep { b with text := text } := htext.trans h

/-- No edit gets text and tokens out of step. -/
theorem IsInStep.edit {b b' : Builder} (h : b.IsInStep) (hedit : b.Edit b') : b'.IsInStep := by
  cases hedit with
  | write token hgap =>
      exact h.push (by rw [unspaced_append, unspaced_of_allBlank hgap, List.append_nil])
  | join c =>
      have htrimmed : b.trimmed.IsInStep := h.of_text (unspaced_trimEnd b.text)
      exact htrimmed.push (by simp [Token.render, unspaced_nil])
  | space => exact h.of_text (by simp [unspaced_nil])
  | pad => exact h.of_text (by simp [unspaced_nil])

theorem isInStep_ofOptions (options : Options) : (ofOptions options).IsInStep := by
  have hempty : IsInStep ⟨[], [], options⟩ := rfl
  unfold ofOptions
  dsimp only
  split
  next => exact hempty.push (by simp [Token.render, markerAndSpace, unspaced_nil])
  next => exact hempty

/-- Whatever calls are made on a new builder, its text and the text of its
tokens are the same when white space is left out of both. -/
theorem unspaced_text_runAll (options : Options) (program : List Call) :
    ((ofOptions options).runAll program).text.unspaced =
      (renderTokens ((ofOptions options).runAll program).tokens).unspaced :=
  (edits_runAll _ program).keep (fun _ _ hedit h => h.edit hedit) (isInStep_ofOptions options)

/-! ## Each token in the text -/

/-- What each token of a builder is written as stands in the text, white space at
its end apart. -/
def ShowsTokens (b : Builder) : Prop := ∀ token ∈ b.tokens, token.render.trimEnd <:+: b.text

/-- Text may be added at the end. -/
theorem ShowsTokens.append {b : Builder} (h : b.ShowsTokens) (more : Text) :
    ∀ token ∈ b.tokens, token.render.trimEnd <:+: b.text ++ more :=
  fun token htoken => (h token htoken).trans (List.prefix_append _ _).isInfix

/-- White space may be taken off the end before. -/
theorem ShowsTokens.trimEnd_append {b : Builder} (h : b.ShowsTokens) (more : Text) :
    ∀ token ∈ b.tokens, token.render.trimEnd <:+: b.text.trimEnd ++ more :=
  fun token htoken =>
    (infix_trimEnd getLast?_trimEnd (h token htoken)).trans (List.prefix_append _ _).isInfix

theorem ShowsTokens.edit {b b' : Builder} (h : b.ShowsTokens) (hedit : b.Edit b') :
    b'.ShowsTokens := by
  cases hedit with
  | @write token gap hgap =>
      refine List.forall_mem_append.mpr ⟨h.append _, List.forall_mem_singleton.mpr ?_⟩
      have hrender : token.render <:+: b.text ++ (token.render ++ gap) :=
        ⟨b.text, gap, List.append_assoc ..⟩
      exact (trimEnd_isPrefix _).isInfix.trans hrender
  | join c =>
      refine List.forall_mem_append.mpr ⟨h.trimEnd_append _, List.forall_mem_singleton.mpr ?_⟩
      have hliteral : c.literal <:+: b.text.trimEnd ++ (' ' :: c.literal ++ [' ']) :=
        ⟨b.text.trimEnd ++ [' '], [' '], by simp⟩
      exact (trimEnd_isPrefix _).isInfix.trans hliteral
  | space => exact h.trimEnd_append [' ']
  | pad => exact h.append [' ']

theorem showsTokens_ofOptions (options : Options) : (ofOptions options).ShowsTokens := by
  unfold ofOptions
  dsimp only
  split
  next => exact List.forall_mem_singleton.mpr ⟨[], [' '], rfl⟩
  next => exact fun token htoken => absurd htoken List.not_mem_nil

theorem showsTokens_runAll (options : Options) (program : List Call) :
    ((ofOptions options).runAll program).ShowsTokens :=
  (edits_runAll _ program).keep (fun _ _ hedit h => h.edit hedit) (showsTokens_ofOptions options)

end Builder

end FilterQuery
