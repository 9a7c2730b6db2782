import ChatMarkup.Proofs.Escape.Literal
import ChatMarkup.Proofs.Latex.Spans

namespace ChatMarkup.Latex

variable {m : Nat} {t inner tail : Text} {c : Char}

/-- Whether what stands between an opening parenthesis and the next closing one is taken for LaTeX
once it is escaped. -/
def HidesFormula (m : Nat) (t : Text) : Prop :=
  ∃ inner, '(' :: (inner ++ [')']) <:+: t ∧ ')' ∉ inner ∧ detect m (escapeLiteral inner) = true

theorem detect_escapeLiteral_cons (c : Char) (hd : detect m (escapeLiteral t) = true) :
    detect m (escapeLiteral (c :: t)) = true := by
  have hend : escapeLiteral t <:+ escapeLiteral (c :: t) := List.suffix_append _ _
  exact detect_of_isInfix hend.isInfix hd

theorem hidesFormula_cons_of_ne (hc : c ≠ '(') : HidesFormula m (c :: t) ↔ HidesFormula m t := by
  constructor
  · intro hex
    obtain ⟨inner, hi, hn, hd⟩ := hex
    rcases List.infix_cons_iff.mp hi with h | h
    · exact absurd (List.cons_prefix_cons.mp h).1.symm hc
    · exact ⟨inner, h, hn, hd⟩
  · intro hex
    obtain ⟨inner, hi, hn, hd⟩ := hex
    exact ⟨inner, List.infix_cons hi, hn, hd⟩

theorem hidesFormula_concat_of_ne (hc : c ≠ ')') :
    HidesFormula m (t ++ [c]) ↔ HidesFormula m t := by
  constructor
  · intro hex
    obtain ⟨inner, hi, hn, hd⟩ := hex
    rcases List.infix_concat_iff.mp hi with ⟨before, h⟩ | h
    · rw [← List.cons_append, ← List.append_assoc] at h
      exact absurd (List.append_inj_right' h rfl) (by simpa using Ne.symm hc)
    · exact ⟨inner, h, hn, hd⟩
  · intro hex
    obtain ⟨inner, hi, hn, hd⟩ := hex
    exact ⟨inner, hi.trans (List.prefix_append _ _).isInfix, hn, hd⟩

theorem not_hidesFormula_of_not_mem (h : ')' ∉ t) : ¬HidesFormula m t := by
  intro hex
  obtain ⟨inner, hi, -, -⟩ := hex
  exact h (hi.subset (by simp))

theorem eq_of_isPrefix_close {x y : Text} (hx : ')' ∉ x) (hy : ')' ∉ y)
    (h : x ++ [')'] <+: y ++ ')' :: t) : x = y := by
  obtain ⟨rest, h⟩ := h
  have htake : ∀ (z s : Text), ')' ∉ z → (z ++ ')' :: s).takeWhile (· != ')') = z := by
    intro z s hz
    rw [List.takeWhile_append_of_pos, List.takeWhile_cons_of_neg (by simp), List.append_nil]
    intro a ha
    simpa using ne_of_mem_of_not_mem ha hz
  rw [List.append_assoc] at h
  have hleft := htake x rest hx
  rw [← htake y t hy, ← h]
  exact hleft.symm

theorem hidesFormula_append_close (hn : ')' ∉ inner)
    (h : HidesFormula m (inner ++ ')' :: t)) :
    detect m (escapeLiteral inner) = true ∨ HidesFormula m t := by
  induction inner with
  | nil => exact Or.inr ((hidesFormula_cons_of_ne (by decide)).mp h)
  | cons c inner ih =>
    rw [List.mem_cons, not_or] at hn
    obtain ⟨part, hi, hp, hd⟩ := h
    rcases List.infix_cons_iff.mp hi with hstart | hrest
    · have hpart := eq_of_isPrefix_close hp hn.2 (List.cons_prefix_cons.mp hstart).2
      rw [hpart] at hd
      exact Or.inl (detect_escapeLiteral_cons c hd)
    · exact (ih hn.2 ⟨part, hrest, hp, hd⟩).imp_left (detect_escapeLiteral_cons c)

theorem hidesFormula_group (hn : ')' ∉ inner) :
    HidesFormula m ('(' :: (inner ++ ')' :: t)) ↔
      detect m (escapeLiteral inner) = true ∨ HidesFormula m t := by
  constructor
  · intro hex
    obtain ⟨part, hi, hp, hd⟩ := hex
    rcases List.infix_cons_iff.mp hi with hstart | hrest
    · have hpart := eq_of_isPrefix_close hp hn (List.cons_prefix_cons.mp hstart).2
      rw [hpart] at hd
      exact Or.inl hd
    · exact hidesFormula_append_close hn ⟨part, hrest, hp, hd⟩
  · intro hex
    rcases hex with hd | ⟨part, hi, hp, hd⟩
    · refine ⟨inner, ?_, hn, hd⟩
      have hstart : '(' :: (inner ++ [')']) <+: '(' :: (inner ++ ')' :: t) := ⟨t, by simp⟩
      exact hstart.isInfix
    · have hend : t <:+ '(' :: (inner ++ ')' :: t) := ⟨'(' :: (inner ++ [')']), by simp⟩
      exact ⟨part, hi.trans hend.isInfix, hp, hd⟩

theorem hidesFormula_trim : HidesFormula m (Text.trim t) ↔ HidesFormula m t := by
  have hfront : ∀ s : Text, HidesFormula m (s.dropWhile isBlank) ↔ HidesFormula m s := by
    intro s
    induction s with
    | nil => exact Iff.rfl
    | cons c s ih =>
      cases hc : isBlank c with
      | true =>
        have hne : c ≠ '(' := by
          intro e
          subst e
          exact absurd hc (by decide)
        rw [List.dropWhile_cons_of_pos hc, ih, hidesFormula_cons_of_ne hne]
      | false => rw [List.dropWhile_cons_of_neg (by simp [hc])]
  have hback : ∀ s : Text, HidesFormula m (s.rdropWhile isBlank) ↔ HidesFormula m s := by
    intro s
    induction s using List.reverseRecOn with
    | nil => exact Iff.rfl
    | append_singleton s c ih =>
      cases hc : isBlank c with
      | true =>
        have hne : c ≠ ')' := by
          intro e
          subst e
          exact absurd hc (by decide)
        rw [List.rdropWhile_concat_pos _ _ _ hc, ih, hidesFormula_concat_of_ne hne]
      | false =>
        have hneg : ¬isBlank c = true := by simp [hc]
        rw [List.rdropWhile_concat_neg _ _ _ hneg]
  exact (hback _).trans (hfront t)

/-- Text that escaped text cannot run into: it has no backslash and does not start with a reserved
character. -/
structure Apart (tail : Text) : Prop where
  plain : '\\' ∉ tail
  head : ∀ c ∈ tail.head?, isReserved c = false

theorem head?_escapeLiteral_append (ht : Apart tail) (t : Text) :
    ∀ c ∈ (escapeLiteral t ++ tail).head?, c ≠ '(' ∧ c ≠ ')' := by
  have hplain : ∀ c, isReserved c = false → c ≠ '(' ∧ c ≠ ')' := by
    intro c hc
    constructor
    all_goals
      intro e
      subst e
      exact absurd hc (by decide)
  intro c hc
  cases t with
  | nil => exact hplain c (ht.head c hc)
  | cons d t =>
    rw [escapeLiteral_cons] at hc
    cases hd : isReserved d with
    | true =>
      rw [hd] at hc
      rw [← Option.some.inj hc]
      decide
    | false =>
      rw [hd] at hc
      rw [← Option.some.inj hc]
      exact hplain d hd

theorem occurs_close_escapeLiteral (ht : Apart tail) (h : ')' ∉ t) :
    Text.occurs ['\\', ')'] (escapeLiteral t ++ tail) = false := by
  induction t with
  | nil => exact Text.occurs_eq_false List.mem_cons_self ht.plain
  | cons c t ih =>
    rw [List.mem_cons, not_or] at h
    have hrest : Text.occurs ['\\', ')'] (c :: (escapeLiteral t ++ tail)) = false := by
      rw [Text.occurs_pair_cons, ih h.2]
      intro hex
      obtain ⟨-, hhead⟩ := hex
      exact (head?_escapeLiteral_append ht t ')' hhead).2 rfl
    rw [escapeLiteral_cons]
    cases isReserved c with
    | false => exact hrest
    | true =>
      change Text.occurs ['\\', ')'] ('\\' :: c :: (escapeLiteral t ++ tail)) = false
      rw [Text.occurs_pair_cons, hrest]
      intro hex
      obtain ⟨-, hhead⟩ := hex
      exact h.1 (Option.some.inj hhead).symm

theorem replaceAll_escapeLiteral_cons (ht : Apart tail) (hc : c = '(' → ')' ∉ t) :
    (spanRule m false).replaceAll (escapeLiteral (c :: t) ++ tail) =
      escapeChar (isReserved c) c ++
        (spanRule m false).replaceAll (escapeLiteral t ++ tail) := by
  have hhead := head?_escapeLiteral_append ht t
  rw [escapeLiteral_cons, List.append_assoc]
  cases hr : isReserved c with
  | false => exact replaceAll_cons_of_ne (ne_backslash_of_isReserved hr)
  | true =>
    change (spanRule m false).replaceAll ('\\' :: c :: (escapeLiteral t ++ tail)) =
      '\\' :: c :: (spanRule m false).replaceAll (escapeLiteral t ++ tail)
    have hfirst : (spanRule m false).step ('\\' :: c :: (escapeLiteral t ++ tail)) = none := by
      by_cases hopen : c = '('
      · subst hopen
        apply step_of_not_span
        exact Text.cut?_eq_none (occurs_close_escapeLiteral ht (hc rfl))
      · apply step_of_head
        intro d hd
        rwa [← Option.some.inj hd]
    -- The escaped character may be a backslash itself; it opens nothing with what follows it.
    have hsecond : (spanRule m false).step (c :: (escapeLiteral t ++ tail)) = none := by
      by_cases hb : c = '\\'
      · subst hb
        exact step_of_head fun d hd => (hhead d hd).1
      · exact step_of_ne hb
    rw [Rule.replaceAll_cons_of_none hfirst, Rule.replaceAll_cons_of_none hsecond]

theorem escapeLiteral_group (inner t : Text) :
    escapeLiteral ('(' :: (inner ++ ')' :: t)) =
      '\\' :: '(' :: (escapeLiteral inner ++ '\\' :: ')' :: escapeLiteral t) := by
  rw [escapeLiteral_cons, escapeLiteral_append, escapeLiteral_cons]
  rfl

theorem replaceAll_escapeLiteral_group (tail : Text) (hn : ')' ∉ inner) :
    (spanRule m false).replaceAll (escapeLiteral ('(' :: (inner ++ ')' :: t)) ++ tail) =
      (if detect m (escapeLiteral inner) then spanCode false (escapeLiteral inner)
        else '\\' :: '(' :: (escapeLiteral inner ++ ['\\', ')'])) ++
        (spanRule m false).replaceAll (escapeLiteral t ++ tail) := by
  have hnil : Apart [] := ⟨List.not_mem_nil, fun _ h => by cases h⟩
  have hclose := occurs_close_escapeLiteral hnil hn
  rw [List.append_nil] at hclose
  have hspan : span? (delimiters false).1 (delimiters false).2
      ('\\' :: '(' :: (escapeLiteral inner ++ '\\' :: ')' :: (escapeLiteral t ++ tail))) =
        some (escapeLiteral inner, escapeLiteral t ++ tail) :=
    Text.cut?_pair (by decide) _ hclose
  rw [escapeLiteral_group, List.cons_append, List.cons_append, List.append_assoc]
  apply Rule.replaceAll_cons_of_step
  exact step_of_span hspan

/-- Induction over a text by its characters and its groups in parentheses. -/
theorem parenInduction {motive : Text → Prop} (nil : motive [])
    (plain : ∀ c t, (c = '(' → ')' ∉ t) → motive t → motive (c :: t))
    (group : ∀ inner t, ')' ∉ inner → motive t → motive ('(' :: (inner ++ ')' :: t)))
    (t : Text) : motive t := by
  match t with
  | [] => exact nil
  | c :: t =>
    by_cases h : c = '(' ∧ ')' ∈ t
    · obtain ⟨rfl, hclose⟩ := h
      obtain ⟨inner, rest, hrest, hn⟩ := List.eq_append_cons_of_mem hclose
      have hlength : rest.length < t.length := by
        rw [hrest, List.length_append, List.length_cons]
        omega
      rw [hrest]
      exact group inner rest hn (parenInduction nil plain group rest)
    · exact plain c t (fun hc hclose => h ⟨hc, hclose⟩) (parenInduction nil plain group t)
termination_by t.length
decreasing_by
  · simp only [List.length_cons]
    omega
  · simp

theorem replaceAll_escapeLiteral_iff (ht : Apart tail) :
    (spanRule m false).replaceAll (escapeLiteral t ++ tail) = escapeLiteral t ++ tail ↔
      ¬HidesFormula m t := by
  induction t using parenInduction with
  | nil =>
    have hnone : ¬HidesFormula m [] := not_hidesFormula_of_not_mem List.not_mem_nil
    exact iff_of_true (replaceAll_eq_self ht.plain) hnone
  | plain c t hc ih =>
    have hhides : HidesFormula m (c :: t) ↔ HidesFormula m t := by
      by_cases hopen : c = '('
      · subst hopen
        have hn : ')' ∉ '(' :: t := by simpa using hc rfl
        exact iff_of_false (not_hidesFormula_of_not_mem hn) (not_hidesFormula_of_not_mem (hc rfl))
      · exact hidesFormula_cons_of_ne hopen
    rw [replaceAll_escapeLiteral_cons ht hc, escapeLiteral_cons, List.append_assoc,
      List.append_right_inj, ih, hhides]
  | group inner t hn ih =>
    have htext : escapeLiteral ('(' :: (inner ++ ')' :: t)) ++ tail =
        '\\' :: '(' :: (escapeLiteral inner ++ ['\\', ')']) ++ (escapeLiteral t ++ tail) := by
      simp [escapeLiteral_group]
    rw [replaceAll_escapeLiteral_group tail hn, hidesFormula_group hn, htext]
    by_cases hd : detect m (escapeLiteral inner) = true
    · rw [if_pos hd]
      apply iff_of_false
      · intro h
        cases h
      · exact fun h => h (Or.inl hd)
    · rw [if_neg hd, List.append_right_inj, ih, or_iff_right hd]

/-- A block between texts without a backslash, which holds neither its closing delimiter nor a
break and is taken for LaTeX, is converted once only exactly if its normalized content hides no
formula in parentheses. -/
theorem escapeLatex_block_iff (m : Nat) {p c s : Text} (hp : '\\' ∉ p) (hs : '\\' ∉ s)
    (hclose : Text.occurs ['\\', ']'] c = false) (hbreak : Text.occurs ['\n', '\n'] c = false)
    (hd : detect m c = true) :
    escapeLatex m (p ++ ['\\', '['] ++ c ++ ['\\', ']'] ++ s) =
        p ++ (fence ++ ['\n'] ++ Text.trim (escapeLiteral (normalize c)) ++ ['\n'] ++ fence) ++ s ↔
      ¬HidesFormula m (normalize c) := by
  obtain ⟨q, qs, hq, hjoin, hblock⟩ := escapeLatex_block hclose hbreak hd hs
  have htext : p ++ ['\\', '['] ++ c ++ ['\\', ']'] ++ s =
      p ++ '\\' :: '[' :: (c ++ '\\' :: ']' :: s) := by simp
  have hopen : '\\' ∉ fence ++ ['\n'] := by decide
  have htail : Apart (['\n'] ++ fence ++ q) := by
    constructor
    · rw [List.mem_append, not_or]
      exact ⟨by decide, hq⟩
    · intro d hd
      rw [← Option.some.inj hd]
      decide
  have hcode : spanCode true c ++ q = (fence ++ ['\n']) ++
      (escapeLiteral (Text.trim (normalize c)) ++ (['\n'] ++ fence ++ q)) := by
    simp [spanCode, trim_escapeLiteral]
  have hright : p ++ (fence ++ ['\n'] ++ Text.trim (escapeLiteral (normalize c)) ++ ['\n'] ++
      fence) ++ s = p ++ Text.join ['\n', '\n'] ((spanCode true c ++ q) :: qs) := by
    rw [Text.join_append_head, hjoin, spanCode]
    simp
  rw [htext, escapeLatex_append hp, hblock, hright, List.append_right_inj, Text.join_cons_inj,
    hcode, replaceAll_append hopen, List.append_right_inj, replaceAll_escapeLiteral_iff htail,
    hidesFormula_trim]

/-- A root without parentheses is converted once only. -/
theorem escapeLatex_block_root :
    let p := "so ".toList
    let c := "\\sqrt{x}".toList
    let s := " holds".toList
    '\\' ∉ p ∧ '\\' ∉ s ∧ Text.occurs ['\\', ']'] c = false ∧
      Text.occurs ['\n', '\n'] c = false ∧ detect 5 c = true ∧
      escapeLatex 5 (p ++ ['\\', '['] ++ c ++ ['\\', ']'] ++ s) =
        p ++ (fence ++ ['\n'] ++ ['√', 'x'] ++ ['\n'] ++ fence) ++ s := by
  intro p c s
  have hp : '\\' ∉ p := by decide +kernel
  have hs : '\\' ∉ s := by decide +kernel
  have hclose : Text.occurs ['\\', ']'] c = false := by decide +kernel
  have hbreak : Text.occurs ['\n', '\n'] c = false := by decide +kernel
  have hd : detect 5 c = true := by decide +kernel
  have hc : normalize c = ['√', 'x'] := by decide +kernel
  have hnone : ¬HidesFormula 5 (normalize c) := by
    rw [hc]
    exact not_hidesFormula_of_not_mem (by decide)
  have hout := (escapeLatex_block_iff 5 hp hs hclose hbreak hd).mpr hnone
  rw [hc] at hout
  exact ⟨hp, hs, hclose, hbreak, hd, hout⟩

/-- A fraction between sized parentheses is converted twice: the fenced block holds an inline code
span, and the backslash of its second command is escaped twice. -/
theorem escapeLatex_sized_parentheses :
    let c := "\\left( \\frac{a}{b} \\right)".toList
    (∀ delimiter ∈ [['\\', '['], ['\\', ']'], ['\\', '('], ['\\', ')'], ['\n', '\n']],
      Text.occurs delimiter c = false) ∧ detect 5 c = true ∧
      escapeLatex 5 (['\\', '['] ++ c ++ ['\\', ']']) =
        "```\n\\\\left`a/b \\\\\\\\right`\n```".toList ∧
      fence ++ ['\n'] ++ Text.trim (escapeLiteral (normalize c)) ++ ['\n'] ++ fence =
        "```\n\\\\left\\( a/b \\\\right\\)\n```".toList := by
  decide +kernel

end ChatMarkup.Latex
