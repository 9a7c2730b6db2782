import ChatMarkup.Latex.Prose
import ChatMarkup.Proofs.Text.Occurs

namespace ChatMarkup.Latex

variable {m : Nat} {block : Bool} {t content rest : Text}

theorem detect_of_isInfix {part : Text} (h : part <:+: t) (hd : detect m part = true) :
    detect m t = true := by
  simp only [detect, Bool.and_eq_true, decide_eq_true_eq, Bool.or_eq_true, List.any_eq_true] at hd ⊢
  obtain ⟨hlength, hfound⟩ := hd
  refine ⟨hlength.trans (Text.utf8Length_le_of_isInfix h), ?_⟩
  rcases hfound with ⟨command, hc, ho⟩ | ⟨entry, hc, ho⟩
  · exact Or.inl ⟨command, hc, Text.occurs_of_isInfix h ho⟩
  · exact Or.inr ⟨entry, hc, Text.occurs_of_isInfix h ho⟩

theorem detect_eq_false_of_isInfix {part : Text} (h : part <:+: t) (ht : detect m t = false) :
    detect m part = false := by
  by_contra hdetect
  rw [Bool.not_eq_false] at hdetect
  rw [detect_of_isInfix h hdetect] at ht
  cases ht

theorem step_of_span
    (h : span? (delimiters block).1 (delimiters block).2 t = some (content, rest)) :
    (spanRule m block).step t =
      some (if detect m content then spanCode block content
        else (delimiters block).1 ++ content ++ (delimiters block).2, rest) := by
  change Option.map _ (span? (delimiters block).1 (delimiters block).2 t) = _
  rw [h]
  rfl

theorem step_of_not_span (h : span? (delimiters block).1 (delimiters block).2 t = none) :
    (spanRule m block).step t = none := by
  change Option.map _ (span? (delimiters block).1 (delimiters block).2 t) = _
  rw [h]
  rfl

theorem step_of_ne {c : Char} (hc : c ≠ '\\') : (spanRule m block).step (c :: t) = none := by
  apply step_of_not_span
  cases block <;> simp [span?, delimiters, Text.dropFront?, Ne.symm hc]

theorem step_of_head (h : ∀ c ∈ t.head?, c ≠ '(') :
    (spanRule m false).step ('\\' :: t) = none := by
  apply step_of_not_span
  cases t with
  | nil => rfl
  | cons c t =>
    change Text.dropFront? ['\\', '('] ('\\' :: c :: t) >>= _ = none
    rw [Text.dropFront?_pair t fun e => h c rfl e.2]
    rfl

theorem replaceAll_cons_of_ne {c : Char} (hc : c ≠ '\\') :
    (spanRule m block).replaceAll (c :: t) = c :: (spanRule m block).replaceAll t :=
  Rule.replaceAll_cons_of_none (step_of_ne hc)

theorem replaceAll_append {a : Text} (ha : '\\' ∉ a) :
    (spanRule m block).replaceAll (a ++ t) = a ++ (spanRule m block).replaceAll t := by
  induction a with
  | nil => rfl
  | cons c a ih =>
    rw [List.mem_cons, not_or] at ha
    rw [List.cons_append, replaceAll_cons_of_ne (Ne.symm ha.1), ih ha.2, List.cons_append]

theorem replaceAll_eq_self (ht : '\\' ∉ t) : (spanRule m block).replaceAll t = t := by
  have h : (spanRule m block).replaceAll (t ++ []) = t ++ (spanRule m block).replaceAll [] :=
    replaceAll_append ht
  rwa [Rule.replaceAll_nil, List.append_nil] at h

theorem escapeParagraph_cons {c : Char} (hc : c ≠ '\\') :
    escapeParagraph m (c :: t) = c :: escapeParagraph m t := by
  rw [escapeParagraph, replaceAll_cons_of_ne hc, replaceAll_cons_of_ne hc, escapeParagraph]

theorem escapeParagraph_eq_self (ht : '\\' ∉ t) : escapeParagraph m t = t := by
  rw [escapeParagraph, replaceAll_eq_self ht, replaceAll_eq_self ht]

theorem infix_of_mem_paragraphs {p : Text} (h : p ∈ paragraphs t) : p <:+: t := by
  have hjoin := Text.infix_join ['\n', '\n'] h
  rwa [join_paragraphs] at hjoin

theorem map_escapeParagraph {ps : List Text} (h : ∀ p ∈ ps, escapeParagraph m p = p) :
    ps.map (escapeParagraph m) = ps := (List.map_congr_left h).trans (List.map_id _)

theorem paragraphs_break (t : Text) : paragraphs ('\n' :: '\n' :: t) = [] :: paragraphs t := by
  rw [paragraphs]

theorem paragraphs_cons {c : Char} {p : Text} {ps : List Text}
    (hbreak : ¬(c = '\n' ∧ t.head? = some '\n')) (hp : paragraphs t = p :: ps) :
    paragraphs (c :: t) = (c :: p) :: ps := by
  rw [paragraphs]
  · rw [hp]
  · intro t' e e'
    subst e e'
    exact hbreak ⟨rfl, rfl⟩

theorem escapeLatex_break (m : Nat) (t : Text) :
    escapeLatex m ('\n' :: '\n' :: t) = '\n' :: '\n' :: escapeLatex m t := by
  obtain ⟨p, ps, hp⟩ := List.exists_cons_of_ne_nil (paragraphs_ne_nil t)
  rw [escapeLatex, paragraphs_break, escapeLatex, hp, List.map_cons, List.map_cons,
    escapeParagraph_eq_self List.not_mem_nil, Text.join_cons_cons]
  rfl

theorem escapeLatex_cons {c : Char} (hc : c ≠ '\\') (t : Text) :
    escapeLatex m (c :: t) = c :: escapeLatex m t := by
  induction t generalizing c with
  | nil =>
    have hsingle : paragraphs [c] = [[c]] := paragraphs_cons (by simp) rfl
    have hempty : paragraphs [] = [[]] := rfl
    rw [escapeLatex, hsingle, List.map_singleton, escapeParagraph_cons hc, escapeLatex, hempty,
      List.map_singleton]
    rfl
  | cons d t ih =>
    by_cases hbreak : c = '\n' ∧ d = '\n'
    · obtain ⟨rfl, rfl⟩ := hbreak
      -- In a longer run of line breaks the pairs shift by one, but every break is copied.
      rw [escapeLatex_break, ih hc]
    · obtain ⟨p, ps, hp⟩ := List.exists_cons_of_ne_nil (paragraphs_ne_nil (d :: t))
      have hcons : paragraphs (c :: d :: t) = (c :: p) :: ps :=
        paragraphs_cons (by simpa using hbreak) hp
      rw [escapeLatex, hcons, List.map_cons, escapeParagraph_cons hc, Text.join_cons_head,
        escapeLatex, hp, List.map_cons]

/-- Text without a backslash is copied, and what follows is treated as if it stood alone. -/
theorem escapeLatex_append {a : Text} (ha : '\\' ∉ a) (t : Text) :
    escapeLatex m (a ++ t) = a ++ escapeLatex m t := by
  induction a with
  | nil => rfl
  | cons c a ih =>
    rw [List.mem_cons, not_or] at ha
    rw [List.cons_append, escapeLatex_cons (Ne.symm ha.1), ih ha.2, List.cons_append]

theorem paragraphs_append {a p : Text} {ps : List Text}
    (ha : Text.occurs ['\n', '\n'] (a ++ t.take 1) = false) (hp : paragraphs t = p :: ps) :
    paragraphs (a ++ t) = (a ++ p) :: ps := by
  induction a with
  | nil => exact hp
  | cons c a ih =>
    rw [List.cons_append, Text.occurs, Bool.or_eq_false_iff] at ha
    apply paragraphs_cons _ (ih ha.2)
    intro hpair
    obtain ⟨rfl, hhead⟩ := hpair
    have hnext : (a ++ t.take 1).head? = some '\n' := by
      rw [← hhead]
      cases a <;> cases t <;> rfl
    obtain ⟨rest, hrest⟩ := List.head?_eq_some_iff.mp hnext
    rw [hrest] at ha
    simp at ha

theorem paragraphs_span (block : Bool) {c s p : Text} {ps : List Text}
    (hbreak : Text.occurs ['\n', '\n'] c = false) (hp : paragraphs s = p :: ps) :
    paragraphs ((delimiters block).1 ++ (c ++ ((delimiters block).2 ++ s))) =
      ((delimiters block).1 ++ (c ++ ((delimiters block).2 ++ p))) :: ps := by
  have hcontent : Text.occurs ['\n', '\n'] (c ++ ['\\']) = false := by
    rwa [Text.occurs_pair_concat (by simp)]
  have hclosing : ∀ d, d ≠ '\n' → paragraphs (c ++ '\\' :: d :: s) = (c ++ '\\' :: d :: p) :: ps :=
    fun d hd => paragraphs_append hcontent
      (paragraphs_cons (by simp) (paragraphs_cons (fun h => hd h.1) hp))
  cases block
  all_goals
    exact paragraphs_cons (by simp) (paragraphs_cons (by simp) (hclosing _ (by decide)))

theorem replaceAll_span (m : Nat) (block : Bool) {c : Text}
    (hc : Text.occurs (delimiters block).2 c = false) (s : Text) :
    (spanRule m block).replaceAll ((delimiters block).1 ++ (c ++ ((delimiters block).2 ++ s))) =
      (if detect m c then spanCode block c else (delimiters block).1 ++ c ++ (delimiters block).2) ++
        (spanRule m block).replaceAll s := by
  cases block
  all_goals
    apply Rule.replaceAll_cons_of_step
    exact step_of_span (Text.cut?_pair (by decide) s hc)

/-- A block in front of text without a backslash: its paragraph is what it becomes and the rest of
the paragraph, read again for inline formulas. -/
theorem escapeLatex_block {c s : Text} (hclose : Text.occurs ['\\', ']'] c = false)
    (hbreak : Text.occurs ['\n', '\n'] c = false) (hd : detect m c = true) (hs : '\\' ∉ s) :
    ∃ p ps, '\\' ∉ p ∧ Text.join ['\n', '\n'] (p :: ps) = s ∧
      escapeLatex m ('\\' :: '[' :: (c ++ '\\' :: ']' :: s)) =
        Text.join ['\n', '\n'] ((spanRule m false).replaceAll (spanCode true c ++ p) :: ps) := by
  obtain ⟨p, ps, hp⟩ := List.exists_cons_of_ne_nil (paragraphs_ne_nil s)
  have hplain : ∀ q ∈ p :: ps, '\\' ∉ q := by
    intro q hq h
    rw [← hp] at hq
    exact hs ((infix_of_mem_paragraphs hq).subset h)
  have hwhole : paragraphs ('\\' :: '[' :: (c ++ '\\' :: ']' :: s)) =
      ('\\' :: '[' :: (c ++ '\\' :: ']' :: p)) :: ps := paragraphs_span true hbreak hp
  have hblock : (spanRule m true).replaceAll ('\\' :: '[' :: (c ++ '\\' :: ']' :: p)) =
      spanCode true c ++ p := by
    have hspan := replaceAll_span m true hclose p
    rwa [if_pos hd, replaceAll_eq_self (hplain p List.mem_cons_self)] at hspan
  refine ⟨p, ps, hplain p List.mem_cons_self, hp ▸ join_paragraphs s, ?_⟩
  rw [escapeLatex, hwhole, List.map_cons, escapeParagraph, hblock,
    map_escapeParagraph fun q hq => escapeParagraph_eq_self (hplain q (List.mem_cons_of_mem _ hq))]

end ChatMarkup.Latex
