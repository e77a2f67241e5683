import FilterQuery.Proofs.Lines
import FilterQuery.Terminal.Example
/-!
# Coloured text

What is coloured can be read without the colours: a coloured command or block of
examples is the same text again once its escape sequences are erased. A part of
it stands as it is or between two escape sequences, and both are complete, so
nothing that follows is taken for the rest of one. Neither cutting a command
into words nor cutting a line into an indent, a command and a description loses
a character.
-/

namespace FilterQuery.Terminal

open Text

/-! ## Erasing escape sequences -/

/-- Without escape sequences `painted` reads `text`, whatever follows it: each
sequence that it opens is complete. -/
def Shows (painted text : Text) : Prop :=
  ∀ rest, eraseEscapes false (painted ++ rest) = text ++ eraseEscapes false rest

/-- An open sequence goes on to the next `m`. -/
theorem eraseEscapes_inside {codes : Text} (h : 'm' ∉ codes) (rest : Text) :
    eraseEscapes true (codes ++ 'm' :: rest) = eraseEscapes false rest := by
  induction codes with
  | nil => rfl
  | cons c codes ih =>
      rw [List.mem_cons, not_or] at h
      have hc : (c != 'm') = true := bne_iff_ne.mpr (Ne.symm h.1)
      rw [List.cons_append, eraseEscapes, hc, ih h.2]

namespace Shows

variable {left right painted text : Text} {parts : List Text} {paint : Text → Text}

theorem nil : Shows [] [] := fun _ => rfl

theorem append {leftText rightText : Text} (hleft : Shows left leftText)
    (hright : Shows right rightText) : Shows (left ++ right) (leftText ++ rightText) := by
  intro rest
  rw [List.append_assoc, hleft, hright, List.append_assoc]

theorem eraseEscapes_eq (h : Shows painted text) : eraseEscapes false painted = text := by
  have herase := h []
  rw [List.append_nil] at herase
  rw [herase, eraseEscapes, List.append_nil]

/-- A complete sequence shows nothing. -/
theorem sequence {codes : Text} (h : 'm' ∉ codes) : Shows ('\x1b' :: codes ++ ['m']) [] := by
  intro rest
  rw [List.append_assoc, List.cons_append, List.singleton_append, eraseEscapes, if_pos rfl,
    eraseEscapes_inside h, List.nil_append]

/-- A text without escape sequences shows itself. -/
theorem plain (h : '\x1b' ∉ text) : Shows text text := by
  intro rest
  induction text with
  | nil => rfl
  | cons c text ih =>
      rw [List.mem_cons, not_or] at h
      rw [List.cons_append, eraseEscapes, if_neg (Ne.symm h.1), ih h.2, List.cons_append]

theorem flatMap (h : ∀ part ∈ parts, Shows (paint part) part) :
    Shows (parts.flatMap paint) parts.flatten := by
  induction parts with
  | nil => exact nil
  | cons part parts ih =>
      obtain ⟨hpart, hparts⟩ := List.forall_mem_cons.mp h
      exact hpart.append (ih hparts)

theorem joined {separator : Text} (hseparator : '\x1b' ∉ separator)
    (h : ∀ part ∈ parts, Shows (paint part) part) :
    Shows (Text.joined separator (parts.map paint)) (Text.joined separator parts) := by
  induction parts with
  | nil => exact nil
  | cons part parts ih =>
      obtain ⟨hpart, hparts⟩ := List.forall_mem_cons.mp h
      cases parts with
      | nil => exact hpart
      | cons next rest => exact (hpart.append (plain hseparator)).append (ih hparts)

end Shows

theorem Style.shows_opening (style : Style) : Shows style.opening [] := by
  have hcodes : 'm' ∉ "[38;5;".toList ++ Text.ofNat style.code := by cases style <;> decide
  exact .sequence hcodes

theorem Style.shows_paint (style : Style) {text : Text} (h : '\x1b' ∉ text) :
    Shows (style.paint text) text := by
  have hcodes : 'm' ∉ "[0".toList := by decide
  have hclosing : Shows closing [] := .sequence hcodes
  have hpaint := (style.shows_opening.append (.plain h)).append hclosing
  rwa [List.nil_append, List.append_nil] at hpaint

theorem Style.mem_paint (style : Style) (text : Text) : '\x1b' ∈ style.paint text :=
  List.mem_cons_self

/-! ## Words of a command -/

theorem flatten_consWord (word : Text) (words : List Text) :
    (consWord word words).flatten = word ++ words.flatten := by
  cases word <;> rfl

theorem ne_nil_of_mem_consWord {word piece : Text} {words : List Text}
    (hwords : ∀ piece ∈ words, piece ≠ []) (h : piece ∈ consWord word words) : piece ≠ [] := by
  cases word with
  | nil => exact hwords piece h
  | cons c word =>
      rcases List.mem_cons.mp h with rfl | hmem
      · exact List.cons_ne_nil c word
      · exact hwords piece hmem

/-- The words from any place of a command on, inside a group or not, make up the
rest of the command. -/
theorem splitWord_append (closer : Option Char) (command : Text) :
    (splitWord closer command).1 ++ (splitWord closer command).2.flatten = command := by
  induction command generalizing closer with
  | nil => cases closer <;> rfl
  | cons c rest ih =>
      cases closer with
      | some closer => simp only [splitWord, List.cons_append, ih]
      | none =>
          by_cases hspace : c = ' '
          · simp [splitWord, hspace, flatten_consWord, ih]
          · simp only [splitWord, if_neg hspace, List.cons_append, ih]

theorem ne_nil_of_mem_splitWord {closer : Option Char} {command piece : Text}
    (h : piece ∈ (splitWord closer command).2) : piece ≠ [] := by
  induction command generalizing closer piece with
  | nil => cases closer <;> cases h
  | cons c rest ih =>
      cases closer with
      | some closer => exact ih h
      | none =>
          by_cases hspace : c = ' '
          · simp only [splitWord, if_pos hspace, List.mem_cons] at h
            rcases h with rfl | hmem
            · exact List.cons_ne_nil _ _
            · exact ne_nil_of_mem_consWord (fun _ => ih) hmem
          · simp only [splitWord, if_neg hspace] at h
            exact ih h

theorem flatten_splitWords (command : Text) : (splitWords command).flatten = command := by
  rw [splitWords, flatten_consWord, splitWord_append]

theorem ne_nil_of_mem_splitWords {command word : Text} (h : word ∈ splitWords command) :
    word ≠ [] :=
  ne_nil_of_mem_consWord (fun _ => ne_nil_of_mem_splitWord) h

theorem mem_of_mem_splitWords {command word : Text} {c : Char} (h : word ∈ splitWords command)
    (hc : c ∈ word) : c ∈ command := by
  have hflatten : c ∈ (splitWords command).flatten := List.mem_flatten_of_mem h hc
  rwa [flatten_splitWords] at hflatten

theorem allBlank_splitWords_iff {command : Text} :
    (∀ word ∈ splitWords command, word.allBlank = true) ↔ command.allBlank = true := by
  conv_rhs => rw [← flatten_splitWords command, allBlank, List.all_flatten, List.all_eq_true]
  rfl

/-! ## Coloured commands -/

theorem shows_colorWord {word : Text} (h : '\x1b' ∉ word) : Shows (colorWord word) word := by
  unfold colorWord
  split
  · exact .plain h
  · split
    · exact Style.context.shows_paint h
    · exact Style.literal.shows_paint h

theorem mem_colorWord {word : Text} (h : word.allBlank = false) : '\x1b' ∈ colorWord word := by
  unfold colorWord
  rw [if_neg (Bool.eq_false_iff.mp h)]
  split <;> exact Style.mem_paint _ word

theorem shows_colorCommand {command : Text} (h : '\x1b' ∉ command) :
    Shows (colorCommand command) command := by
  have hwords : ∀ word ∈ splitWords command, Shows (colorWord word) word :=
    fun word hword => shows_colorWord fun hmem => h (mem_of_mem_splitWords hword hmem)
  have hcommand := Shows.flatMap hwords
  rwa [flatten_splitWords] at hcommand

/-- Only white space is left without colours. -/
theorem colorCommand_eq_self_iff {command : Text} (h : '\x1b' ∉ command) :
    colorCommand command = command ↔ command.allBlank = true := by
  rw [← allBlank_splitWords_iff]
  constructor
  · -- A word that is not white space would bring an escape character into the command.
    intro heq word hword
    by_contra hblank
    have hmem : '\x1b' ∈ colorCommand command :=
      List.mem_flatMap_of_mem hword (mem_colorWord (Bool.eq_false_iff.mpr hblank))
    rw [heq] at hmem
    exact h hmem
  · intro hblank
    have hwords : ∀ word ∈ splitWords command, colorWord word = word :=
      fun word hword => if_pos (hblank word hword)
    rw [colorCommand, List.flatMap_congr hwords, List.flatMap_id', flatten_splitWords]

/-! ## Coloured lines -/

theorem eq_append_of_splitDescription? {line command description : Text}
    (h : splitDescription? line = some (command, description)) : line = command ++ description := by
  fun_induction splitDescription? line generalizing command with
  | case1 => cases h
  | case2 => cases h
  | case3 c d rest hspaces =>
      obtain ⟨rfl, rfl⟩ := Prod.mk.inj (Option.some.inj h)
      rfl
  | case4 c d rest hspaces ih =>
      obtain ⟨⟨front, behind⟩, hfront, heq⟩ := Option.map_eq_some_iff.mp h
      obtain ⟨rfl, rfl⟩ := Prod.mk.inj heq
      rw [ih hfront, List.cons_append]

theorem shows_colorLine {line : Text} (h : '\x1b' ∉ line) : Shows (colorLine line) line := by
  have hline := takeWhile_append_trimStart line
  unfold colorLine
  dsimp only
  split
  next command description hsplit =>
    rw [eq_append_of_splitDescription? hsplit, ← List.append_assoc] at hline
    rw [← hline, List.mem_append, List.mem_append, not_or, not_or] at h
    obtain ⟨⟨hindent, hcommand⟩, hdescription⟩ := h
    have hshows := (Shows.plain hindent).append (shows_colorCommand hcommand)
    have hparts := hshows.append (.plain hdescription)
    rwa [hline] at hparts
  next =>
    split
    · rw [← hline, List.mem_append, not_or] at h
      have hparts := (Shows.plain h.1).append (Style.heading.shows_paint h.2)
      rwa [hline] at hparts
    · exact .plain h

theorem shows_examples {text : Text} (h : '\x1b' ∉ text) :
    Shows (examples true text) (Text.joined ['\n'] text.lines) :=
  .joined (by decide) fun _ hline => shows_colorLine fun hmem => h (mem_of_mem_lines hline hmem)

/-- Colouring only adds escape sequences. The words of a command are not empty and
make up the command; once the sequences are erased, a coloured command is the
command again and a coloured block of examples its lines. A command gets colours
unless it is all white space, and without colours a block is left as it is. -/
theorem eraseEscapes_colored {command text : Text} (hcommand : '\x1b' ∉ command)
    (htext : '\x1b' ∉ text) :
    (∀ word ∈ splitWords command, word ≠ []) ∧
      (splitWords command).flatten = command ∧
      eraseEscapes false (colorCommand command) = command ∧
      (colorCommand command = command ↔ command.allBlank = true) ∧
      eraseEscapes false (examples true text) = Text.joined ['\n'] text.lines ∧
      examples false text = text :=
  ⟨fun _ => ne_nil_of_mem_splitWords, flatten_splitWords command,
    (shows_colorCommand hcommand).eraseEscapes_eq, colorCommand_eq_self_iff hcommand,
    (shows_examples htext).eraseEscapes_eq, rfl⟩

/-- A group that is not closed reaches to the end of the command, over characters
of more than one byte; a heading ends with a carriage return, and a description
is cut off inside a placeholder. -/
theorem eraseEscapes_colored_open_group :
    let command := "qk  \"ű  <x".toList
    let text := "Példák:\r\n  qk <ű  Lex\n\n\tqk".toList
    '\x1b' ∉ command ∧ '\x1b' ∉ text ∧
      "\"ű  <x".toList ∈ splitWords command ∧ "\"ű  <x".toList ≠ [] ∧
      eraseEscapes false (colorCommand command) = command ∧ colorCommand command ≠ command ∧
      eraseEscapes false (examples true text) = "Példák:\n  qk <ű  Lex\n\n\tqk".toList ∧
      examples false text = text := by
  intro command text
  have hcommand : '\x1b' ∉ command := by decide
  have htext : '\x1b' ∉ text := by decide
  have hword : "\"ű  <x".toList ∈ splitWords command := by decide
  have hvisible : ¬ allBlank command = true := by decide
  have hlines : Text.joined ['\n'] (lines text) =
      "Példák:\n  qk <ű  Lex\n\n\tqk".toList := by decide
  obtain ⟨hwords, -, herase, hself, hexamples, hplain⟩ := eraseEscapes_colored hcommand htext
  exact ⟨hcommand, htext, hword, hwords _ hword, herase, mt hself.mp hvisible,
    hexamples.trans hlines, hplain⟩

end FilterQuery.Terminal
