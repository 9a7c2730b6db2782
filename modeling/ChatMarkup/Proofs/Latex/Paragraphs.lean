import ChatMarkup.Proofs.Latex.Spans

namespace ChatMarkup.Latex

variable {m : Nat} {block : Bool} {p t : Text}

/-- What holds of every text without a break, and of a text as soon as it holds of what follows its
first break, holds of every text. -/
theorem breakInduction {motive : Text → Prop}
    (whole : ∀ p, Text.occurs ['\n', '\n'] p = false → motive p)
    (broken : ∀ p t, Text.occurs ['\n', '\n'] (p ++ ['\n']) = false → motive t →
      motive (p ++ '\n' :: '\n' :: t)) (t : Text) : motive t := by
  cases h : Text.cut? ['\n', '\n'] t with
  | none => exact whole t (Text.occurs_eq_false_of_cut? h)
  | some parts =>
    obtain ⟨p, rest⟩ := parts
    have hsplit : t = p ++ '\n' :: '\n' :: rest := by simpa using Text.cut?_eq_some h
    have hlength : rest.length < t.length := by
      rw [hsplit]
      simp only [List.length_append, List.length_cons]
      omega
    rw [hsplit]
    exact broken p rest (Text.occurs_concat_of_cut? h) (breakInduction whole broken rest)
termination_by t.length

theorem paragraphs_of_not_break (h : Text.occurs ['\n', '\n'] p = false) : paragraphs p = [p] := by
  have hempty : paragraphs [] = [[]] := rfl
  have happend := paragraphs_append (a := p) (by simpa using h) hempty
  rwa [List.append_nil] at happend

theorem escapeLatex_of_not_break (h : Text.occurs ['\n', '\n'] p = false) :
    escapeLatex m p = escapeParagraph m p := by
  rw [escapeLatex, paragraphs_of_not_break h]
  rfl

theorem escapeLatex_of_break (h : Text.occurs ['\n', '\n'] (p ++ ['\n']) = false) (t : Text) :
    escapeLatex m (p ++ '\n' :: '\n' :: t) =
      escapeParagraph m p ++ '\n' :: '\n' :: escapeLatex m t := by
  have hparagraphs : paragraphs (p ++ '\n' :: '\n' :: t) = p :: paragraphs t := by
    have happend := paragraphs_append (t := '\n' :: '\n' :: t) h (paragraphs_break t)
    rwa [List.append_nil] at happend
  obtain ⟨q, qs, hq⟩ := List.exists_cons_of_ne_nil (paragraphs_ne_nil t)
  rw [escapeLatex, hparagraphs, escapeLatex, hq, List.map_cons, List.map_cons, Text.join_cons_cons]
  simp

theorem span?_concat {opening closing : Text} {c : Char} (hne : closing ≠ []) (ho : c ∉ opening)
    (hc : c ∉ closing) (t : Text) :
    span? opening closing (t ++ [c]) =
      (span? opening closing t).map fun parts => (parts.1, parts.2 ++ [c]) := by
  rw [span?, span?, Text.dropFront?_concat ho]
  cases Text.dropFront? opening t with
  | none => rfl
  | some inner => exact Text.cut?_concat hne hc inner

theorem step_concat_break (m : Nat) (block : Bool) (t : Text) :
    (spanRule m block).step (t ++ ['\n']) =
      ((spanRule m block).step t).map fun parts => (parts.1, parts.2 ++ ['\n']) := by
  have hspan : span? (delimiters block).1 (delimiters block).2 (t ++ ['\n']) =
      (span? (delimiters block).1 (delimiters block).2 t).map
        fun parts => (parts.1, parts.2 ++ ['\n']) := by
    cases block
    all_goals exact span?_concat (by decide) (by decide) (by decide) t
  cases h : span? (delimiters block).1 (delimiters block).2 t with
  | none =>
    rw [h] at hspan
    rw [step_of_not_span h, step_of_not_span hspan]
    rfl
  | some parts =>
    rw [h] at hspan
    rw [step_of_span h, step_of_span hspan]
    rfl

theorem replaceAll_concat_break (t : Text) :
    (spanRule m block).replaceAll (t ++ ['\n']) = (spanRule m block).replaceAll t ++ ['\n'] := by
  fun_induction Rule.replaceAll (spanRule m block) t with
  | case1 => exact replaceAll_eq_self (by decide)
  | case2 c t image rest hstep ih =>
    have hlonger := step_concat_break m block (c :: t)
    rw [hstep, List.cons_append] at hlonger
    rw [List.cons_append, Rule.replaceAll_cons_of_step hlonger, ih, List.append_assoc]
  | case3 c t hstep ih =>
    have hlonger := step_concat_break m block (c :: t)
    rw [hstep, List.cons_append] at hlonger
    rw [List.cons_append, Rule.replaceAll_cons_of_none hlonger, ih, List.cons_append]

theorem escapeParagraph_concat_break (t : Text) :
    escapeParagraph m (t ++ ['\n']) = escapeParagraph m t ++ ['\n'] := by
  rw [escapeParagraph, replaceAll_concat_break, replaceAll_concat_break, escapeParagraph]

/-- The parts of a text on either side of a break are converted apart, also where the break belongs
to a longer run of line breaks. -/
theorem escapeLatex_append_break (m : Nat) (p q : Text) :
    escapeLatex m (p ++ '\n' :: '\n' :: q) =
      escapeLatex m p ++ '\n' :: '\n' :: escapeLatex m q := by
  induction p using breakInduction with
  | whole p hp =>
    cases hend : Text.occurs ['\n', '\n'] (p ++ ['\n']) with
    | false => rw [escapeLatex_of_break hend, escapeLatex_of_not_break hp]
    | true =>
      -- The run has an odd number of line breaks in front: the last of them goes to the other part.
      have hlast : p.getLast? = some '\n' := by
        by_contra hne
        rw [Text.occurs_pair_concat fun h => hne h.2, hp] at hend
        cases hend
      obtain ⟨front, rfl⟩ := List.getLast?_eq_some_iff.mp hlast
      have hassoc : front ++ ['\n'] ++ '\n' :: '\n' :: q = front ++ '\n' :: '\n' :: '\n' :: q := by
        simp
      rw [hassoc, escapeLatex_of_break hp, escapeLatex_cons (by decide),
        escapeLatex_of_not_break hp, escapeParagraph_concat_break]
      simp
  | broken p t hp ih =>
    have hassoc : p ++ '\n' :: '\n' :: t ++ '\n' :: '\n' :: q =
        p ++ '\n' :: '\n' :: (t ++ '\n' :: '\n' :: q) := by simp
    rw [hassoc, escapeLatex_of_break hp, ih, escapeLatex_of_break hp]
    simp

theorem replaceAll_eq_self_of_spans
    (h : ∀ a b e, t = a ++ (delimiters block).1 ++ b ++ (delimiters block).2 ++ e →
      detect m b = false) : (spanRule m block).replaceAll t = t := by
  apply Rule.replaceAll_eq_self_of_step
  intro s image rest hs hstep
  obtain ⟨front, rfl⟩ := hs
  cases hspan : span? (delimiters block).1 (delimiters block).2 s with
  | none =>
    rw [step_of_not_span hspan] at hstep
    cases hstep
  | some parts =>
    obtain ⟨content, after⟩ := parts
    have hsplit := span?_eq_some hspan
    have hplain : detect m content = false := h front content after (by rw [hsplit]; simp)
    rw [step_of_span hspan, hplain] at hstep
    cases hstep
    rw [hsplit]
    simp

theorem escapeParagraph_of_not_detect (h : detect m p = false) : escapeParagraph m p = p := by
  have hcopied : ∀ block : Bool, (spanRule m block).replaceAll p = p := by
    intro block
    apply replaceAll_eq_self_of_spans
    rintro a b e rfl
    have hcontent : b <:+: a ++ (delimiters block).1 ++ b ++ (delimiters block).2 ++ e :=
      ⟨a ++ (delimiters block).1, (delimiters block).2 ++ e, by simp⟩
    exact detect_eq_false_of_isInfix hcontent h
  rw [escapeParagraph, hcopied, hcopied]

theorem escapeLatex_eq_self {t : Text} (h : ∀ p ∈ paragraphs t, escapeParagraph m p = p) :
    escapeLatex m t = t := by
  rw [escapeLatex, map_escapeParagraph h, join_paragraphs]

/-- The prose filter works on each paragraph alone: a break between two texts may stand anywhere,
next to more line breaks too. And a text that is not taken for LaTeX stays as it is, whatever
delimiters it has. -/
theorem escapeLatex_of_parts (m : Nat) :
    (∀ p q : Text, escapeLatex m (p ++ ['\n', '\n'] ++ q) =
      escapeLatex m p ++ ['\n', '\n'] ++ escapeLatex m q) ∧
    ∀ t : Text, detect m t = false → escapeLatex m t = t := by
  constructor
  · intro p q
    have hbreak := escapeLatex_append_break m p q
    simpa using hbreak
  · intro t ht
    apply escapeLatex_eq_self
    intro p hp
    apply escapeParagraph_of_not_detect
    exact detect_eq_false_of_isInfix (infix_of_mem_paragraphs hp) ht

/-- A formula on either side of four line breaks in a row, and delimiters around what is no
formula. -/
theorem escapeLatex_of_parts_long_break :
    let p := "\\(\\sqrt{x}\\)\n".toList
    let q := "\n\\[\\sqrt{2}\\]".toList
    let t := "\\(x+y\\)".toList
    escapeLatex 5 (p ++ ['\n', '\n'] ++ q) = "`√x`\n\n\n\n```\n√2\n```".toList ∧
      detect 5 t = false ∧ escapeLatex 5 t = t := by
  intro p q t
  have hp : escapeLatex 5 p = "`√x`\n".toList := by decide +kernel
  have hq : escapeLatex 5 q = "\n```\n√2\n```".toList := by decide +kernel
  have ht : detect 5 t = false := by decide +kernel
  refine ⟨?_, ht, (escapeLatex_of_parts 5).2 t ht⟩
  rw [(escapeLatex_of_parts 5).1 p q, hp, hq]
  decide +kernel

end ChatMarkup.Latex
