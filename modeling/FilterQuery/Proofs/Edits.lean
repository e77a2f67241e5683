import FilterQuery.Builder.Call
import Mathlib.Logic.Relation
/-!
# What a call can do to a builder

Whatever a call is, it comes down to a few edits: a token is written at the end
with or without a space after it, a connective takes the place of the white
space at the end, or a space does. What each edit keeps, every program keeps.
-/

namespace FilterQuery

/-- The edits that calls are made of. -/
inductive Builder.Edit (b : Builder) : Builder → Prop
  | write (token : Token) {gap : Text} : gap.allBlank = true →
      b.Edit (b.push (token.render ++ gap) token)
  | join (c : Connective) : b.Edit (b.connective c)
  | space : b.Edit b.spaced
  | pad : b.Edit { b with text := b.text ++ [' '] }

/-- Any number of edits, one after the other. -/
abbrev Builder.Edits : Builder → Builder → Prop := Relation.ReflTransGen Builder.Edit

namespace Builder

variable {b : Builder}

theorem Edit.write_spaced (token : Token) : b.Edit (b.push (token.render ++ [' ']) token) :=
  .write token (by decide)

theorem Edit.write_flush (token : Token) : b.Edit (b.push token.render token) := by
  have hwrite := @Edit.write b token [] rfl
  rwa [List.append_nil] at hwrite

theorem edits_op (b : Builder) (property : Text) (operator : Operator) (value : Option Scalar)
    (quoted : Bool) : b.Edits (b.op property operator value quoted) := by
  cases value with
  | none => exact .refl
  | some value => exact .single (.write_spaced (.condition property operator _))

theorem edits_inList (b : Builder) (property : Text) (operator : ListOperator)
    (values : List (Option Scalar)) : b.Edits (b.inList property operator values) := by
  unfold inList
  split
  next => exact .refl
  next value rest _ => exact .single (.write_spaced (.listCondition property operator _))

theorem edits_addCondition (b : Builder) (condition : Text) :
    b.Edits (b.addCondition condition) := by
  unfold addCondition
  split
  next => exact .refl
  next => exact .single (.write_spaced (.raw condition))

theorem edits_separated (b : Builder) (joiner : Option Connective) :
    b.Edits (b.separated joiner) := by
  unfold separated
  dsimp only
  split
  next => exact .refl
  next =>
    cases joiner with
    | none => exact .single .space
    | some c =>
        dsimp only
        split
        next => exact .single .space
        next => exact .single (.join c)

theorem edits_append (b : Builder) (fragment : Text) (joiner : Option Connective) :
    b.Edits (b.append fragment joiner) := by
  unfold append
  dsimp only
  split
  next => exact .refl
  next => exact (b.edits_separated joiner).tail (.write_flush (.raw _))

theorem edits_concat (b other : Builder) (joiner : Option Connective) :
    b.Edits (b.concat other joiner) := by
  have hgroup : ∀ b : Builder, b.Edit (b.push (other.group ++ [' ']) (.raw other.group)) :=
    fun b => .write_spaced (.raw other.group)
  unfold concat
  cases joiner with
  | none => exact .single (hgroup b)
  | some c =>
      dsimp only
      split
      next => exact .single (hgroup b)
      next => exact .tail (.single (.join c)) (hgroup _)

theorem edits_replayRaw (b : Builder) (text : Text) : b.Edits (b.replayRaw text) := by
  unfold replayRaw
  dsimp only
  split
  next => exact (b.edits_append text none).tail .pad
  next => exact b.edits_append text none

theorem edits_apply (b : Builder) (token : Token) : b.Edits (b.apply token) := by
  cases token with
  | condition property operator value => exact b.edits_op property operator (some value) _
  | listCondition property operator values => exact b.edits_inList property operator _
  | connective c => exact .single (.join c)
  | paren p => exact .single (.write_flush (.paren p))
  | raw text => exact b.edits_replayRaw text

theorem edits_run (b : Builder) (c : Call) : b.Edits (c.run b) := by
  cases c with
  | op property operator value quoted => exact b.edits_op property operator value quoted
  | inList property operator values => exact b.edits_inList property operator values
  | addCondition condition => exact b.edits_addCondition condition
  | connective c => exact .single (.join c)
  | paren p => exact .single (.write_flush (.paren p))
  | append fragment joiner => exact b.edits_append fragment joiner
  | merge other joiner => exact b.edits_append other.text joiner
  | concat other joiner => exact b.edits_concat other joiner
  | apply token => exact b.edits_apply token

theorem edits_runAll (b : Builder) (program : List Call) : b.Edits (b.runAll program) := by
  induction program generalizing b with
  | nil => exact .refl
  | cons c program ih => exact (b.edits_run c).trans (ih (c.run b))

theorem edits_foldl_apply (b : Builder) (tokens : List Token) :
    b.Edits (tokens.foldl apply b) := by
  induction tokens generalizing b with
  | nil => exact .refl
  | cons token tokens ih => exact (b.edits_apply token).trans (ih (b.apply token))

/-- What every edit keeps, any number of edits keeps. -/
theorem Edits.keep {motive : Builder → Prop} {b b' : Builder} (h : b.Edits b')
    (hstep : ∀ b b' : Builder, b.Edit b' → motive b → motive b') (hb : motive b) : motive b' := by
  induction h with
  | refl => exact hb
  | tail _ hedit ih => exact hstep _ _ hedit ih

theorem Edit.options_eq {b' : Builder} (h : b.Edit b') : b'.options = b.options := by
  cases h <;> rfl

theorem Edits.options_eq {b' : Builder} (h : b.Edits b') : b'.options = b.options :=
  h.keep (fun _ _ hedit hoptions => hedit.options_eq.trans hoptions) rfl

end Builder

end FilterQuery
