import ChatMarkup.Proofs.Latex.Paragraphs

namespace ChatMarkup.Latex

variable {m : Nat} {t p c s : Text}

theorem escapeParagraph_of_not_block (h : Text.occurs ['\\', '['] t = false) :
    escapeParagraph m t = (spanRule m false).replaceAll t := by
  have hblock : (spanRule m true).replaceAll t = t := by
    apply replaceAll_eq_self_of_spans
    rintro a b e rfl
    have hopening : ['\\', '['] <:+: a ++ ['\\', '['] ++ b ++ ['\\', ']'] ++ e :=
      ⟨a, b ++ ['\\', ']'] ++ e, by simp⟩
    rw [delimiters, if_pos rfl, Text.occurs_iff.mpr hopening] at h
    cases h
  rw [escapeParagraph, hblock]

theorem replaceAll_append_of_not_opened (hp : Text.occurs ['\\', '('] p = false)
    (ht : t.head? ≠ some '(') :
    (spanRule m false).replaceAll (p ++ t) = p ++ (spanRule m false).replaceAll t := by
  induction p with
  | nil => rfl
  | cons c p ih =>
    have hstep : (spanRule m false).step (c :: (p ++ t)) = none := by
      by_cases hc : c = '\\'
      · subst hc
        apply step_of_head
        rintro d hd rfl
        cases p with
        | nil => exact ht hd
        | cons e p =>
          cases hd
          simp [Text.occurs] at hp
      · exact step_of_ne hc
    rw [Text.occurs, Bool.or_eq_false_iff] at hp
    rw [List.cons_append, Rule.replaceAll_cons_of_none hstep, ih hp.2, List.cons_append]

theorem escapeParagraph_eq_self_of_not_opened (hblock : Text.occurs ['\\', '['] p = false)
    (hp : Text.occurs ['\\', '('] p = false) : escapeParagraph m p = p := by
  have hcopied := replaceAll_append_of_not_opened (m := m) (t := []) hp (by simp)
  rw [Rule.replaceAll_nil, List.append_nil] at hcopied
  rw [escapeParagraph_of_not_block hblock, hcopied]

/-- The first inline formula is converted, or keeps its delimiters, and what follows it is treated
as if it stood alone. -/
theorem escapeLatex_append_inline
    (hblock : Text.occurs ['\\', '[']
      (p ++ ((delimiters false).1 ++ (c ++ ((delimiters false).2 ++ s)))) = false)
    (hp : Text.occurs ['\\', '('] p = false)
    (hclose : Text.occurs (delimiters false).2 c = false)
    (hbreak : Text.occurs ['\n', '\n'] c = false) :
    escapeLatex m (p ++ ((delimiters false).1 ++ (c ++ ((delimiters false).2 ++ s)))) =
      p ++ ((if detect m c then spanCode false c
        else (delimiters false).1 ++ c ++ (delimiters false).2) ++ escapeLatex m s) := by
  induction p using breakInduction with
  | whole p hwhole =>
    obtain ⟨q, qs, hq⟩ := List.exists_cons_of_ne_nil (paragraphs_ne_nil s)
    have hfront : Text.occurs ['\n', '\n'] (p ++ ['\\']) = false := by
      rwa [Text.occurs_pair_concat (by simp)]
    have hparagraphs := paragraphs_append hfront (paragraphs_span false hbreak hq)
    have hfirst := Text.occurs_eq_false_of_isInfix
      (infix_of_mem_paragraphs (hparagraphs ▸ List.mem_cons_self)) hblock
    have hlast : Text.occurs ['\\', '['] q = false := by
      refine Text.occurs_eq_false_of_isInfix ?_ hfirst
      exact ⟨p ++ (delimiters false).1 ++ c ++ (delimiters false).2, [], by simp⟩
    have hconverted := replaceAll_append_of_not_opened (m := m) hp
      (t := (delimiters false).1 ++ (c ++ ((delimiters false).2 ++ q))) (by simp [delimiters])
    rw [replaceAll_span m false hclose, ← escapeParagraph_of_not_block hfirst,
      ← escapeParagraph_of_not_block hlast] at hconverted
    rw [escapeLatex, hparagraphs, List.map_cons, hconverted, Text.join_append_head,
      Text.join_append_head, escapeLatex, hq, List.map_cons]
  | broken p t hend ih =>
    have hassoc : p ++ '\n' :: '\n' :: t ++
          ((delimiters false).1 ++ (c ++ ((delimiters false).2 ++ s))) =
        p ++ (['\n', '\n'] ++
          (t ++ ((delimiters false).1 ++ (c ++ ((delimiters false).2 ++ s))))) := by
      simp
    rw [hassoc] at hblock ⊢
    obtain ⟨hfirst, hrest⟩ := Text.occurs_append_eq_false hblock
    obtain ⟨hopen, hlater⟩ := Text.occurs_append_eq_false (b := ['\n', '\n'] ++ t) hp
    have hconverted :=
      ih (Text.occurs_append_eq_false hrest).2 (Text.occurs_append_eq_false hlater).2
    rw [List.cons_append, List.cons_append, List.nil_append, escapeLatex_of_break hend, hconverted,
      escapeParagraph_eq_self_of_not_opened hfirst hopen]
    simp

/-- Without blocks the prose filter converts the inline formulas one after the other, each of them
alone, and copies everything else; where no inline formula is closed it changes nothing. -/
theorem escapeLatex_inline (m : Nat) :
    (∀ p c s : Text,
      Text.occurs ['\\', '['] (p ++ ['\\', '('] ++ c ++ ['\\', ')'] ++ s) = false →
      Text.occurs ['\\', '('] p = false → Text.occurs ['\\', ')'] c = false →
      Text.occurs ['\n', '\n'] c = false →
      escapeLatex m (p ++ ['\\', '('] ++ c ++ ['\\', ')'] ++ s) =
        p ++ (if detect m c then ['\x60'] ++ Text.trim (escapeLiteral (normalize c)) ++ ['\x60']
          else ['\\', '('] ++ c ++ ['\\', ')']) ++ escapeLatex m s) ∧
    ∀ t : Text, Text.occurs ['\\', '['] t = false →
      (∀ p ∈ paragraphs t, ∀ a b e, p ≠ a ++ ['\\', '('] ++ b ++ ['\\', ')'] ++ e) →
      escapeLatex m t = t := by
  constructor
  · intro p c s hblock hp hclose hbreak
    have hassoc : p ++ ['\\', '('] ++ c ++ ['\\', ')'] ++ s =
        p ++ ((delimiters false).1 ++ (c ++ ((delimiters false).2 ++ s))) := by simp [delimiters]
    rw [hassoc] at hblock ⊢
    rw [escapeLatex_append_inline hblock hp hclose hbreak, ← List.append_assoc p]
    rfl
  · intro t hblock hclosed
    apply escapeLatex_eq_self
    intro p hp
    have hpart := Text.occurs_eq_false_of_isInfix (infix_of_mem_paragraphs hp) hblock
    rw [escapeParagraph_of_not_block hpart]
    exact replaceAll_eq_self_of_spans fun a b e hspan => absurd hspan (hclosed p hp a b e)

/-- A formula after a closing delimiter and an escaped backslash, in front of one that is never
closed. -/
theorem escapeLatex_inline_after_backslash :
    let p := "\\)\\".toList
    let c := "\\sqrt{x}\n\\(".toList
    let s := " \\(a\n\n\\)".toList
    Text.occurs ['\\', '['] (p ++ ['\\', '('] ++ c ++ ['\\', ')'] ++ s) = false ∧
      Text.occurs ['\\', '('] p = false ∧ Text.occurs ['\\', ')'] c = false ∧
      Text.occurs ['\n', '\n'] c = false ∧
      (∀ q ∈ paragraphs s, ∀ a b e, q ≠ a ++ ['\\', '('] ++ b ++ ['\\', ')'] ++ e) ∧
      escapeLatex 5 (p ++ ['\\', '('] ++ c ++ ['\\', ')'] ++ s) =
        "\\)\\`√x\n\\\\\\(` \\(a\n\n\\)".toList := by
  intro p c s
  have hblock : Text.occurs ['\\', '['] (p ++ ['\\', '('] ++ c ++ ['\\', ')'] ++ s) = false := by
    decide +kernel
  have hp : Text.occurs ['\\', '('] p = false := by decide +kernel
  have hclose : Text.occurs ['\\', ')'] c = false := by decide +kernel
  have hbreak : Text.occurs ['\n', '\n'] c = false := by decide +kernel
  have hparts : ∀ q ∈ paragraphs s, ∀ a b e, q ≠ a ++ ['\\', '('] ++ b ++ ['\\', ')'] ++ e := by
    have hnever : ∀ q ∈ paragraphs s, '(' ∉ q ∨ ')' ∉ q := by decide +kernel
    rintro _ hq a b e rfl
    rcases hnever _ hq with h | h <;> simp at h
  have hs : escapeLatex 5 s = s := (escapeLatex_inline 5).2 s (by decide +kernel) hparts
  refine ⟨hblock, hp, hclose, hbreak, hparts, ?_⟩
  rw [(escapeLatex_inline 5).1 p c s hblock hp hclose hbreak, hs]
  decide +kernel

end ChatMarkup.Latex
