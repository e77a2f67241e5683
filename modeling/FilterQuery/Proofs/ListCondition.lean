import FilterQuery.Proofs.Balanced
/-!
# Conditions on lists

The lexer knows no lists: a list in brackets is read as a word, and a word ends
at white space or a parenthesis, within a quoted string too. So a condition on a
list is read back as one condition exactly if none of its strings has such a
character in it.
-/

namespace FilterQuery

/-- A list condition whose list is a word is finished to three lexemes. -/
theorem contents_build_inList {options : Options} (hplain : options.encodeUri = false)
    {property : Text} (hproperty : IsName property) (operator : ListOperator)
    {values : List (Option Scalar)} (hne : values.filterMap id ≠ [])
    (hvalues : HasWordStrings (values.filterMap id)) :
    contents ((Builder.ofOptions options).inList property operator values).build =
      options.lead ++ listConditionContents property operator (values.filterMap id) := by
  have hpiece := Builder.isPiece_inList (Builder.isPiece_ofOptions options)
    hproperty.toIsBareword operator hne hvalues
  have hfragment := IsFragment.listCondition hproperty operator (values.filterMap id)
  have hbuild := Builder.build_runAll hplain [.inList property operator values]
  exact (congrArg contents hbuild).trans
    (Builder.contents_plainQuery hpiece (hfragment.clear_append options.lead))

/-- A condition on a list is read back as the property, the operator and the
whole list, and as a well-formed query, exactly if no string in the list has
white space or a parenthesis in it. -/
theorem reads_inList_iff {options : Options} (hplain : options.encodeUri = false)
    {property : Text} (hproperty : IsName property) (operator : ListOperator)
    {values : List (Option Scalar)} (hne : values.filterMap id ≠ []) :
    ((lex ((Builder.ofOptions options).inList property operator values).build).map Lexeme.text =
        options.lead.map Prod.snd ++
          [property, operator.literal, listLiteral (values.filterMap id)] ∧
      isWellFormed ((Builder.ofOptions options).inList property operator values).build = true) ↔
    HasWordStrings (values.filterMap id) := by
  constructor
  · rintro ⟨htexts, -⟩
    -- A lexeme whose text begins with a bracket can only be a word.
    have hmem : listLiteral (values.filterMap id) ∈
        (lex ((Builder.ofOptions options).inList property operator values).build).map
          Lexeme.text := by
      rw [htexts]
      simp
    obtain ⟨l, hl, htext⟩ := List.mem_map.mp hmem
    have hcontent : l.content ∈
        contents ((Builder.ofOptions options).inList property operator values).build :=
      List.mem_map_of_mem hl
    have hchars := isWordChar_of_mem_contents hcontent
    rw [Lexeme.content, htext] at hchars
    refine isWordChar_listLiteral_iff.mp (hchars ?_ ?_)
    · simp [listLiteral]
    · rintro (_ | _) <;> simp [listLiteral, Paren.literal, Paren.char]
  · intro hvalues
    have hcontents := contents_build_inList hplain hproperty operator hne hvalues
    have hfragment := IsFragment.listCondition hproperty operator (values.filterMap id)
    refine ⟨?_, hfragment.isWellFormed hcontents⟩
    have htexts := congrArg (List.map Prod.snd) hcontents
    rw [contents, List.map_map, List.map_append] at htexts
    exact htexts

/-- One word in a string makes the difference between one condition and two. -/
theorem reads_inList_city :
    ((lex ((Builder.ofOptions {}).inList "City".toList .isIn
        [none, some (.string "Oslo".toList)]).build).map Lexeme.text =
          ["City".toList, "^^".toList, "[\"Oslo\"]".toList] ∧
      isWellFormed ((Builder.ofOptions {}).inList "City".toList .isIn
        [none, some (.string "Oslo".toList)]).build = true) ∧
    ¬ ((lex ((Builder.ofOptions {}).inList "City".toList .isIn
        [some (.string "New York".toList)]).build).map Lexeme.text =
          ["City".toList, "^^".toList, "[\"New York\"]".toList] ∧
      isWellFormed ((Builder.ofOptions {}).inList "City".toList .isIn
        [some (.string "New York".toList)]).build = true) := by
  have hcity : IsName "City".toList := by decide
  have hoslo : HasWordStrings [.string "Oslo".toList] := by decide
  have hyork : ¬ HasWordStrings [.string "New York".toList] := by decide
  constructor
  · exact (@reads_inList_iff {} rfl _ hcity .isIn [none, some (.string "Oslo".toList)]
      (List.cons_ne_nil _ _)).mpr hoslo
  · exact mt (@reads_inList_iff {} rfl _ hcity .isIn [some (.string "New York".toList)]
      (List.cons_ne_nil _ _)).mp hyork

/-- A list with a space in a string is cut there, and the query is turned
down. -/
theorem lexes_inList_newYork :
    (lex ((Builder.ofOptions {}).inList "City".toList .isIn
        [some (.string "New York".toList)]).build).map Lexeme.text =
      ["City".toList, "^^".toList, "[\"New".toList, "York\"]".toList] ∧
    isWellFormed ((Builder.ofOptions {}).inList "City".toList .isIn
      [some (.string "New York".toList)]).build = false := by
  decide +kernel

end FilterQuery
