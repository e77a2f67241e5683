import FilterQuery.Builder.Methods
import FilterQuery.Proofs.Record
/-!
# Rebuilding a query from its tokens

A builder that is written to by methods and by taking over other such builders
keeps a record of stable tokens. So a replay of its tokens records the same
tokens, and the finished query has the same lexemes.
-/

namespace FilterQuery

/-- The builders that are reached from new ones by the methods named for
operators, connectives and parentheses, and by taking over other such builders
as text or as groups. The strings in a list are words. -/
inductive Builder.IsComposed : Builder → Prop
  | new (options : Options) : IsComposed (ofOptions options)
  | value {b : Builder} {operator : Operator} {method : Builder → Text → Option Scalar → Builder}
      {property : Text} : IsComposed b → (operator, method) ∈ valueMethods → IsName property →
        (value : Option Scalar) → IsComposed (method b property value)
  | count {b : Builder} {operator : Operator} {method : Builder → Text → Option Int64 → Builder}
      {property : Text} : IsComposed b → (operator, method) ∈ countMethods → IsName property →
        (count : Option Int64) → IsComposed (method b property count)
  | list {b : Builder} {operator : ListOperator}
      {method : Builder → Text → List (Option Scalar) → Builder} {property : Text}
      {values : List (Option Scalar)} : IsComposed b → (operator, method) ∈ listMethods →
        IsName property → HasWordStrings (values.filterMap id) →
        IsComposed (method b property values)
  | connective {b : Builder} : IsComposed b → (c : Connective) → IsComposed (b.connective c)
  | paren {b : Builder} : IsComposed b → (p : Paren) → IsComposed (b.paren p)
  | merge {b other : Builder} : IsComposed b → IsComposed other →
      (joiner : Option Connective) → IsComposed (b.merge other joiner)
  | concat {b other : Builder} : IsComposed b → IsComposed other →
      (joiner : Option Connective) → IsComposed (b.concat other joiner)

namespace Builder

theorem IsComposed.isLed {b : Builder} (h : b.IsComposed) : b.IsLed := by
  induction h with
  | new options => exact isLed_ofOptions options
  | value _ hmethod _ value ih =>
      rw [valueMethod_eq_op hmethod]
      exact ih.edits (edits_op _ _ _ _ _)
  | count _ hmethod _ count ih =>
      rw [countMethod_eq_op hmethod]
      exact ih.edits (edits_op _ _ _ _ _)
  | list _ hmethod _ _ ih =>
      rw [listMethod_eq_inList hmethod]
      exact ih.edits (edits_inList _ _ _ _)
  | connective _ c ih => exact ih.edit (.join c)
  | paren _ p ih => exact ih.edit (.write_flush (.paren p))
  | merge _ _ joiner ih _ => exact ih.edits (edits_append _ _ joiner)
  | concat _ _ joiner ih _ => exact ih.edits (edits_concat _ _ joiner)

/-- Every composed builder keeps a record. -/
theorem IsComposed.exists_isRecord {b : Builder} (h : b.IsComposed) :
    ∃ tokens, b.IsRecord tokens := by
  induction h with
  | new options => exact ⟨[], .ofOptions options⟩
  | value _ hmethod hname value ih =>
      obtain ⟨tokens, hrecord⟩ := ih
      rw [valueMethod_eq_op hmethod]
      exact hrecord.exists_op hname _ value
  | count _ hmethod hname count ih =>
      obtain ⟨tokens, hrecord⟩ := ih
      rw [countMethod_eq_op hmethod]
      exact hrecord.exists_op hname _ _
  | list _ hmethod hname hvalues ih =>
      obtain ⟨tokens, hrecord⟩ := ih
      rw [listMethod_eq_inList hmethod]
      exact hrecord.exists_inList hname _ hvalues
  | connective _ c ih =>
      obtain ⟨tokens, hrecord⟩ := ih
      exact ⟨_, hrecord.connective c⟩
  | paren _ p ih =>
      obtain ⟨tokens, hrecord⟩ := ih
      exact ⟨_, hrecord.paren p⟩
  | merge _ hother joiner ih ihother =>
      obtain ⟨tokens, hrecord⟩ := ih
      obtain ⟨more, hmore⟩ := ihother
      exact hrecord.exists_merge hmore hother.isLed joiner
  | concat _ _ joiner ih ihother =>
      obtain ⟨tokens, hrecord⟩ := ih
      obtain ⟨more, hmore⟩ := ihother
      exact hrecord.exists_concat hmore joiner

/-- Replaying the tokens of a composed builder records the same tokens, and the
finished queries have the same lexemes. -/
theorem ofTokens_of_isComposed {b : Builder} (h : b.IsComposed) :
    (ofTokens b.options b.tokens).tokens = b.tokens ∧
      (b.options.encodeUri = false →
        contents (ofTokens b.options b.tokens).build = contents b.build) := by
  obtain ⟨tokens, hrecord⟩ := h.exists_isRecord
  have hreplayed := hrecord.ofTokens
  have hoptions := options_ofTokens b.options b.tokens
  constructor
  · rw [hreplayed.tokens_eq, hoptions, hrecord.tokens_eq]
  · intro hplain
    have hquery := hreplayed.contents_plainQuery
    rw [hoptions, ← hrecord.contents_plainQuery] at hquery
    rw [build, build, hoptions, hplain]
    exact hquery

/-- A group that ends with a connective, after connectives at the front. -/
theorem ofTokens_dangling_group :
    (ofTokens ⟨false, true⟩ [.raw marker, .connective .and, .connective .or,
        .raw "(B _= \"5\" ||)".toList]).tokens =
      [.raw marker, .connective .and, .connective .or, .raw "(B _= \"5\" ||)".toList] ∧
    contents (ofTokens ⟨false, true⟩ [.raw marker, .connective .and, .connective .or,
        .raw "(B _= \"5\" ||)".toList]).build =
      contents (((ofOptions ⟨false, true⟩).connective .and).concat
        (((ofOptions ⟨false, true⟩).startsWith "B".toList (some (.integer 5))).connective .or)
        (some .or)).build := by
  have hname : IsName "B".toList := by decide
  have hmethod : (Operator.startsWith, startsWith) ∈ valueMethods := by simp [valueMethods]
  have hcomposed := IsComposed.concat (.connective (.new ⟨false, true⟩) .and)
    (.connective (.value (.new ⟨false, true⟩) hmethod hname (some (.integer 5))) .or) (some .or)
  have hreplay := ofTokens_of_isComposed hcomposed
  exact ⟨hreplay.1, hreplay.2 rfl⟩

end Builder

end FilterQuery
