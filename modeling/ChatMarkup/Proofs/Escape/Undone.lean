import ChatMarkup.Proofs.Escape.Bare
import Mathlib.Logic.Function.Basic

namespace ChatMarkup

/-- An escape that a reader takes off again, and under which the only reserved characters without a
backslash are the `plain` ones. -/
structure IsFaithful (escape : Text → Text) (plain : List Char) : Prop where
  undone : ∀ t, unescape (escape t) = t
  injective : Function.Injective escape
  guarded : ∀ t, ∃ bare, bare? (escape t) = some bare ∧ ∀ c ∈ bare, c ∈ plain

theorem isFaithful_of {escape : Text → Text} {plain : List Char}
    (undone : ∀ t, unescape (escape t) = t)
    (guarded : ∀ t, ∃ bare, bare? (escape t) = some bare ∧ ∀ c ∈ bare, c ∈ plain) :
    IsFaithful escape plain := ⟨undone, Function.LeftInverse.injective undone, guarded⟩

theorem isFaithful_escapeLiteral : IsFaithful escapeLiteral [] :=
  isFaithful_of unescape_escapeLiteral fun t => ⟨[], bare?_escapeLiteral t, fun _ hc => hc⟩

theorem isFaithful_escapeRun (last : Text) : IsFaithful (escapeRun · last) ['.', '!'] := by
  refine isFaithful_of (unescape_escapeRun · last) fun t => ?_
  have hmarks : marks? (escapeRun t last) = some [] := marks?_escapeRunFrom _ _ t
  rw [marks?, Option.map_eq_some_iff] at hmarks
  obtain ⟨bare, hbare, hnone⟩ := hmarks
  refine ⟨bare, hbare, fun c hc => ?_⟩
  have hplain := List.filter_eq_nil_iff.mp hnone c hc
  simp only [Bool.and_eq_true, bne_iff_ne, not_and_or, not_not] at hplain
  simpa using hplain

/-- White space ends the word: what follows is escaped as a run of its own, with nothing before
it. -/
theorem escapeRunFrom_append_blank {w : Char} (hw : isBlank w = true) (number fresh : Bool)
    (a b : Text) :
    escapeRunFrom number fresh (a ++ w :: b) =
      escapeRunFrom number fresh a ++ w :: escapeRun b [] := by
  induction a generalizing number fresh with
  | nil => exact if_pos hw
  | cons c a ih =>
    rw [List.cons_append, escapeRunFrom, escapeRunFrom]
    split_ifs
    · rw [ih, List.cons_append]
    · rw [ih, List.append_assoc]

/-- Escapes can be taken off again, so no two texts are escaped alike; literal text keeps no
reserved character bare and running text periods and exclamation marks at most; literal text is
escaped part by part, and running text on either side of white space. -/
theorem escapes_are_undone_and_split (last : Text) :
    IsFaithful (escapeRun · last) ['.', '!'] ∧ IsFaithful escapeLiteral [] ∧
    (∀ a b, escapeLiteral (a ++ b) = escapeLiteral a ++ escapeLiteral b) ∧
    ∀ a b w, isBlank w = true →
      escapeRun (a ++ w :: b) last = escapeRun a last ++ w :: escapeRun b [] :=
  ⟨isFaithful_escapeRun last, isFaithful_escapeLiteral, escapeLiteral_append,
    fun a b _ hw => escapeRunFrom_append_blank hw _ _ a b⟩

/-- A no-break space parts the number from the period behind it. -/
theorem escapes_are_split_at_no_break_space :
    let w := '\u00a0'
    isBlank w = true ∧ escapeRun ("1.".toList ++ w :: ".".toList) "2".toList =
      "1\\.".toList ++ w :: ".".toList := by
  intro w
  have hw : isBlank w = true := by decide
  have hsplit := (escapes_are_undone_and_split "2".toList).2.2.2 "1.".toList ".".toList w hw
  refine ⟨hw, hsplit.trans ?_⟩
  decide +kernel

end ChatMarkup
