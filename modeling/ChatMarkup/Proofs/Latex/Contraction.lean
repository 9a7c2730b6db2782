import ChatMarkup.Proofs.Latex.Forms
import Mathlib.Logic.Function.Iterate

namespace ChatMarkup.Latex

variable {f g : Text → Text} {Form Form' : Text → Prop}

theorem Contracts.length_le (h : Contracts f Form) (t : Text) : (f t).length ≤ t.length := by
  obtain ⟨hsame, -⟩ | ⟨hshorter, -⟩ := h t
  · rw [hsame]
  · exact Nat.le_of_lt hshorter

theorem Contracts.comp (hf : Contracts f Form) (hg : Contracts g Form') :
    Contracts (fun t => g (f t)) fun m => Form m ∨ Form' m := by
  intro t
  obtain ⟨hsame, hnone⟩ | ⟨hshorter, m, hm, hinfix⟩ := hf t
  · dsimp only
    rw [hsame]
    obtain ⟨hsame', hnone'⟩ | ⟨hshorter', m, hm, hinfix⟩ := hg t
    · refine Or.inl ⟨hsame', ?_⟩
      rintro ⟨m, hm | hm, hinfix⟩
      · exact hnone ⟨m, hm, hinfix⟩
      · exact hnone' ⟨m, hm, hinfix⟩
    · exact Or.inr ⟨hshorter', m, Or.inr hm, hinfix⟩
  · have hlength := hg.length_le (f t)
    exact Or.inr ⟨Nat.lt_of_le_of_lt hlength hshorter, m, Or.inl hm, hinfix⟩

theorem Contracts.eq_self_iff (h : Contracts f Form) (t : Text) : f t = t ↔ ¬Has Form t := by
  obtain ⟨hsame, hnone⟩ | ⟨hshorter, hsome⟩ := h t
  · exact iff_of_true hsame hnone
  · refine iff_of_false (fun hsame => ?_) (not_not_intro hsome)
    rw [hsame] at hshorter
    exact Nat.lt_irrefl _ hshorter

theorem Contracts.length_lt_iff (h : Contracts f Form) (t : Text) :
    (f t).length < t.length ↔ Has Form t := by
  obtain ⟨hsame, hnone⟩ | ⟨hshorter, hsome⟩ := h t
  · rw [hsame]
    exact iff_of_false (Nat.lt_irrefl _) hnone
  · exact iff_of_true hshorter hsome

/-- Each run that changes the text makes it shorter, so there are no more of them than the text has
characters. -/
theorem Contracts.exists_iterate_eq (h : Contracts f Form) (t : Text) :
    ∃ n ≤ t.length, f (f^[n] t) = f^[n] t := by
  obtain ⟨hsame, -⟩ | ⟨hshorter, -⟩ := h t
  · exact ⟨0, Nat.zero_le _, hsame⟩
  · obtain ⟨n, hn, hfixed⟩ := h.exists_iterate_eq (f t)
    exact ⟨n + 1, Nat.lt_of_le_of_lt hn hshorter, hfixed⟩
termination_by t.length

/-- What any of the stages rewrites. -/
def IsForm (m : Text) : Prop :=
  IsSymbol m ∨ IsFraction m ∨ IsRoot m ∨ IsSuperscript m ∨ IsSubscript m

theorem contracts_normalize : Contracts normalize IsForm :=
  rewrites_symbolRule.contracts.comp <| rewrites_fractionRule.contracts.comp <|
    rewrites_rootRule.contracts.comp <| rewrites_superscriptRule.contracts.comp
      rewrites_subscriptRule.contracts

/-- Normalizing keeps exactly the texts in which no command of the table and no fraction, root,
superscript digit or subscript stands. It makes all others shorter, so normalizing again and again
comes to a text that stays. -/
theorem normalize_contracts (t : Text) :
    (normalize t = t ↔ ¬Has IsForm t) ∧
    ((normalize t).length < t.length ↔ Has IsForm t) ∧
    ∃ n ≤ t.length, normalize (normalize^[n] t) = normalize^[n] t :=
  ⟨contracts_normalize.eq_self_iff t, contracts_normalize.length_lt_iff t,
    contracts_normalize.exists_iterate_eq t⟩

/-- A glyph may be a backslash, so one run can leave a command that only the next one replaces. -/
example :
    let t := "\\setminuspi".toList
    normalize t = "\\pi".toList ∧ normalize^[2] t = "π".toList := by decide +kernel

end ChatMarkup.Latex
