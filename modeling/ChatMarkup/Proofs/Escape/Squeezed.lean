import ChatMarkup.Proofs.Escape.Literal
import Mathlib.Data.List.Infix

namespace ChatMarkup

/-- The white space that is squeezed to single spaces. -/
def squeezable : List Char := [' ', '\t', '\r', '\n']

/-- A text without tabs, without line breaks and without spaces side by side. -/
structure IsSqueezed (t : Text) : Prop where
  tab : '\t' ∉ t
  carriageReturn : '\r' ∉ t
  newline : '\n' ∉ t
  pair : ¬[' ', ' '] <:+: t

theorem flattenBreak_eq_space_iff {c : Char} : flattenBreak c = ' ' ↔ c ∈ squeezable := by
  unfold flattenBreak
  split_ifs with hbreak
  · rcases hbreak with rfl | rfl | rfl <;> decide
  · simp only [not_or] at hbreak
    simp [squeezable, hbreak]

theorem isBlank_of_mem_squeezable {c : Char} (h : c ∈ squeezable) : isBlank c = true := by
  simp only [squeezable, List.mem_cons, List.not_mem_nil, or_false] at h
  rcases h with rfl | rfl | rfl | rfl <;> decide

theorem flattenBreak_of_not_isBlank {c : Char} (h : isBlank c = false) : flattenBreak c ≠ ' ' := by
  intro hspace
  have hblank := isBlank_of_mem_squeezable (flattenBreak_eq_space_iff.mp hspace)
  simp [h] at hblank

section Steps

variable {c : Char} {t : Text} {spaced : Bool}

theorem collapseFrom_cons_of_space (h : flattenBreak c = ' ') :
    collapseFrom spaced (c :: t) =
      if spaced then collapseFrom true t else ' ' :: collapseFrom true t := by
  rw [collapseFrom, if_pos h]

theorem collapseFrom_cons_of_ne (h : flattenBreak c ≠ ' ') :
    collapseFrom spaced (c :: t) = c :: collapseFrom false t := by
  rw [collapseFrom, if_neg h]

theorem collapseFrom_cons_of_not_isBlank (h : isBlank c = false) (spaced : Bool) (t : Text) :
    collapseFrom spaced (c :: t) = c :: collapseFrom false t :=
  collapseFrom_cons_of_ne (flattenBreak_of_not_isBlank h)

theorem collapseFrom_escapeChar_append (h : isBlank c = false) (escaped spaced : Bool) (t : Text) :
    collapseFrom spaced (escapeChar escaped c ++ t) = escapeChar escaped c ++ collapseFrom false t := by
  have hbackslash : isBlank '\\' = false := by decide
  cases escaped with
  | false => exact collapseFrom_cons_of_not_isBlank h spaced t
  | true =>
    have hfirst := collapseFrom_cons_of_not_isBlank hbackslash spaced (c :: t)
    rw [collapseFrom_cons_of_not_isBlank h] at hfirst
    exact hfirst

end Steps

/-- A run may be squeezed before it is escaped. Where a space was just written, what precedes is no
number and the word is fresh, so a space that is dropped changes nothing for what follows it. -/
theorem collapseFrom_escapeRunFrom (t : Text) (spaced number fresh : Bool)
    (h : spaced = true → number = false ∧ fresh = true) :
    collapseFrom spaced (escapeRunFrom number fresh t) =
      escapeRunFrom number fresh (collapseFrom spaced t) := by
  have hspace : isBlank ' ' = true := by decide
  induction t generalizing spaced number fresh with
  | nil => rfl
  | cons c t ih =>
    by_cases hblank : isBlank c = true
    · rw [escapeRunFrom, if_pos hblank]
      by_cases hc : flattenBreak c = ' '
      · rw [collapseFrom_cons_of_space hc, collapseFrom_cons_of_space hc,
          ih true false true fun _ => ⟨rfl, rfl⟩]
        cases spaced with
        | true =>
          obtain ⟨rfl, rfl⟩ := h rfl
          rfl
        | false => simp [escapeRunFrom, hspace]
      · rw [collapseFrom_cons_of_ne hc, collapseFrom_cons_of_ne hc, escapeRunFrom, if_pos hblank,
          ih false false true (by simp)]
    · have hword : isBlank c = false := by simpa using hblank
      rw [escapeRunFrom, if_neg hblank, collapseFrom_escapeChar_append hword,
        collapseFrom_cons_of_not_isBlank hword, escapeRunFrom, if_neg hblank, ih _ _ _ (by simp)]

theorem collapseWhitespace_escapeRun (t last : Text) :
    collapseWhitespace (escapeRun t last) = escapeRun (collapseWhitespace t) last :=
  collapseFrom_escapeRunFrom t false (Text.isNumber last) true (by simp)

theorem collapseFrom_escapeLiteral (t : Text) (spaced : Bool) :
    collapseFrom spaced (escapeLiteral t) = escapeLiteral (collapseFrom spaced t) := by
  have hspace : isReserved ' ' = false := by decide
  induction t generalizing spaced with
  | nil => rfl
  | cons c t ih =>
    rw [escapeLiteral_cons]
    by_cases hblank : isBlank c = true
    · have hplain : escapeChar (isReserved c) c = [c] := by
        rw [isReserved_of_isBlank hblank]
        rfl
      rw [hplain, List.singleton_append]
      by_cases hc : flattenBreak c = ' '
      · rw [collapseFrom_cons_of_space hc, collapseFrom_cons_of_space hc, ih true]
        cases spaced <;> simp [escapeLiteral, hspace, escapeChar]
      · rw [collapseFrom_cons_of_ne hc, collapseFrom_cons_of_ne hc, escapeLiteral_cons, hplain,
          ih false, List.singleton_append]
    · have hword : isBlank c = false := by simpa using hblank
      rw [collapseFrom_escapeChar_append hword, collapseFrom_cons_of_not_isBlank hword,
        escapeLiteral_cons, ih false]

/-- Whether a squeezed text ends in a space, given whether one was just written before it. -/
def endsSpaced (spaced : Bool) : Text → Bool
  | [] => spaced
  | c :: t => endsSpaced (flattenBreak c == ' ') t

theorem collapseFrom_append (spaced : Bool) (a b : Text) :
    collapseFrom spaced (a ++ b) =
      collapseFrom spaced a ++ collapseFrom (endsSpaced spaced a) b := by
  induction a generalizing spaced with
  | nil => rfl
  | cons c a ih =>
    rw [List.cons_append, endsSpaced]
    by_cases hc : flattenBreak c = ' '
    · rw [collapseFrom_cons_of_space hc, collapseFrom_cons_of_space hc, ih true, hc]
      cases spaced <;> rfl
    · rw [collapseFrom_cons_of_ne hc, collapseFrom_cons_of_ne hc, ih false, List.cons_append,
        beq_false_of_ne hc]

theorem endsSpaced_collapseFrom (spaced : Bool) (t : Text) :
    endsSpaced spaced (collapseFrom spaced t) = endsSpaced spaced t := by
  induction t generalizing spaced with
  | nil => rfl
  | cons c t ih =>
    have hspace : (flattenBreak ' ' == ' ') = true := by decide
    by_cases hc : flattenBreak c = ' '
    · rw [collapseFrom_cons_of_space hc, endsSpaced, hc]
      cases spaced with
      | true => exact ih true
      | false =>
        rw [if_neg Bool.false_ne_true, endsSpaced, hspace]
        exact ih true
    · rw [collapseFrom_cons_of_ne hc, endsSpaced, endsSpaced, beq_false_of_ne hc, ih false]

/-- A text may be squeezed beforehand, if not more of it is dropped than where it stands. -/
theorem collapseFrom_collapseFrom (t : Text) (spaced first : Bool)
    (h : first = true → spaced = true) :
    collapseFrom spaced (collapseFrom first t) = collapseFrom spaced t := by
  induction t generalizing spaced first with
  | nil => rfl
  | cons c t ih =>
    have hspace : flattenBreak ' ' = ' ' := by decide
    by_cases hc : flattenBreak c = ' '
    · rw [collapseFrom_cons_of_space hc, collapseFrom_cons_of_space hc]
      cases first with
      | true => rw [if_pos rfl, h rfl, if_pos rfl, ih true true fun _ => rfl]
      | false =>
        rw [if_neg Bool.false_ne_true, collapseFrom_cons_of_space hspace, ih true true fun _ => rfl]
    · rw [collapseFrom_cons_of_ne hc, collapseFrom_cons_of_ne hc, collapseFrom_cons_of_ne hc,
        ih false false (by simp)]

theorem collapseWhitespace_append (a b : Text) :
    collapseWhitespace (a ++ b) =
      collapseWhitespace (collapseWhitespace a ++ collapseWhitespace b) := by
  have hsecond := collapseFrom_collapseFrom b (endsSpaced false a) false (by simp)
  rw [collapseWhitespace, collapseFrom_append, collapseWhitespace, collapseFrom_append,
    collapseWhitespace, collapseWhitespace, endsSpaced_collapseFrom,
    collapseFrom_collapseFrom a false false (by simp), hsecond]

theorem collapseWhitespace_eq_nil_iff {t : Text} : collapseWhitespace t = [] ↔ t = [] := by
  cases t with
  | nil => simp [collapseWhitespace, collapseFrom]
  | cons c t => by_cases hc : flattenBreak c = ' ' <;> simp [collapseWhitespace, collapseFrom, hc]

theorem filter_cons_of_mem_squeezable {c : Char} (h : c ∈ squeezable) (t : Text) :
    (c :: t).filter (!squeezable.contains ·) = t.filter (!squeezable.contains ·) :=
  List.filter_cons_of_neg (by simp [h])

theorem filter_collapseFrom (spaced : Bool) (t : Text) :
    (collapseFrom spaced t).filter (!squeezable.contains ·) =
      t.filter (!squeezable.contains ·) := by
  induction t generalizing spaced with
  | nil => rfl
  | cons c t ih =>
    by_cases hc : flattenBreak c = ' '
    · have hmem := flattenBreak_eq_space_iff.mp hc
      rw [collapseFrom_cons_of_space hc, filter_cons_of_mem_squeezable hmem]
      cases spaced with
      | true => exact ih true
      | false => exact (filter_cons_of_mem_squeezable (by decide) _).trans (ih true)
    · have hmem := mt flattenBreak_eq_space_iff.mpr hc
      rw [collapseFrom_cons_of_ne hc, List.filter_cons_of_pos (by simp [hmem]), ih false,
        List.filter_cons_of_pos (by simp [hmem])]

theorem eq_space_of_mem_collapseFrom {c : Char} {t : Text} {spaced : Bool}
    (h : c ∈ collapseFrom spaced t) (hc : c ∈ squeezable) : c = ' ' := by
  induction t generalizing spaced with
  | nil => cases h
  | cons a t ih =>
    by_cases ha : flattenBreak a = ' '
    · rw [collapseFrom_cons_of_space ha] at h
      cases spaced with
      | true => exact ih h
      | false => exact (List.mem_cons.mp h).elim id ih
    · rw [collapseFrom_cons_of_ne ha] at h
      obtain rfl | h := List.mem_cons.mp h
      · exact absurd (flattenBreak_eq_space_iff.mpr hc) ha
      · exact ih h

theorem head?_collapseFrom_true (t : Text) : (collapseFrom true t).head? ≠ some ' ' := by
  induction t with
  | nil => simp [collapseFrom]
  | cons c t ih =>
    by_cases hc : flattenBreak c = ' '
    · rw [collapseFrom_cons_of_space hc]
      exact ih
    · rw [collapseFrom_cons_of_ne hc, List.head?_cons]
      intro hhead
      obtain rfl := Option.some.inj hhead
      exact hc (by decide)

theorem not_pair_infix_collapseFrom (spaced : Bool) (t : Text) :
    ¬[' ', ' '] <:+: collapseFrom spaced t := by
  induction t generalizing spaced with
  | nil => simp [collapseFrom]
  | cons c t ih =>
    by_cases hc : flattenBreak c = ' '
    · rw [collapseFrom_cons_of_space hc]
      cases spaced with
      | true => exact ih true
      | false =>
        rw [if_neg Bool.false_ne_true, List.infix_cons_iff, not_or]
        refine ⟨?_, ih true⟩
        rintro ⟨rest, hrest⟩
        have htail : ' ' :: rest = collapseFrom true t := (List.cons.inj hrest).2
        exact head?_collapseFrom_true t (htail ▸ rfl)
    · rw [collapseFrom_cons_of_ne hc, List.infix_cons_iff, not_or]
      refine ⟨?_, ih false⟩
      rintro ⟨rest, hrest⟩
      obtain rfl : ' ' = c := (List.cons.inj hrest).1
      exact hc (by decide)

theorem isSqueezed_collapseFrom (spaced : Bool) (t : Text) :
    IsSqueezed (collapseFrom spaced t) where
  tab h := absurd (eq_space_of_mem_collapseFrom h (by decide)) (by decide)
  carriageReturn h := absurd (eq_space_of_mem_collapseFrom h (by decide)) (by decide)
  newline h := absurd (eq_space_of_mem_collapseFrom h (by decide)) (by decide)
  pair := not_pair_infix_collapseFrom spaced t

theorem IsSqueezed.of_cons {c : Char} {t : Text} (h : IsSqueezed (c :: t)) : IsSqueezed t where
  tab hmem := h.tab (List.mem_cons_of_mem c hmem)
  carriageReturn hmem := h.carriageReturn (List.mem_cons_of_mem c hmem)
  newline hmem := h.newline (List.mem_cons_of_mem c hmem)
  pair hinfix := h.pair (List.infix_cons hinfix)

theorem IsSqueezed.collapseFrom_eq_self {t : Text} {spaced : Bool} (h : IsSqueezed t)
    (hspaced : spaced = true → t.head? ≠ some ' ') : collapseFrom spaced t = t := by
  induction t generalizing spaced with
  | nil => rfl
  | cons c t ih =>
    by_cases hc : flattenBreak c = ' '
    · obtain rfl : c = ' ' := by
        have hmem := flattenBreak_eq_space_iff.mp hc
        simp only [squeezable, List.mem_cons, List.not_mem_nil, or_false] at hmem
        rcases hmem with rfl | rfl | rfl | rfl
        · rfl
        · exact absurd List.mem_cons_self h.tab
        · exact absurd List.mem_cons_self h.carriageReturn
        · exact absurd List.mem_cons_self h.newline
      have hnext : t.head? ≠ some ' ' := by
        intro hhead
        obtain ⟨rest, rfl⟩ := List.head?_eq_some_iff.mp hhead
        exact h.pair ⟨[], rest, rfl⟩
      have hfirst : spaced = false := by
        rw [← Bool.not_eq_true]
        exact fun hs => hspaced hs rfl
      rw [collapseFrom_cons_of_space hc, hfirst, if_neg Bool.false_ne_true,
        ih h.of_cons fun _ => hnext]
    · rw [collapseFrom_cons_of_ne hc, ih h.of_cons (by simp)]

theorem collapseWhitespace_eq_self_iff {t : Text} : collapseWhitespace t = t ↔ IsSqueezed t := by
  constructor
  · intro h
    rw [← h]
    exact isSqueezed_collapseFrom false t
  · intro h
    exact h.collapseFrom_eq_self (by simp)

/-- Squeezing and escaping may change places. Squeezing keeps exactly the texts without tabs, line
breaks and double spaces, makes such a text of any other, drops nothing but white space and no text
as a whole, and may be done beforehand on the parts of a text. -/
theorem squeezing_commutes (t last : Text) :
    collapseWhitespace (escapeRun t last) = escapeRun (collapseWhitespace t) last ∧
    collapseWhitespace (escapeLiteral t) = escapeLiteral (collapseWhitespace t) ∧
    IsSqueezed (collapseWhitespace t) ∧ (collapseWhitespace t = t ↔ IsSqueezed t) ∧
    (collapseWhitespace t = [] ↔ t = []) ∧
    (collapseWhitespace t).filter (!squeezable.contains ·) =
      t.filter (!squeezable.contains ·) ∧
    ∀ a b, collapseWhitespace (a ++ b) =
      collapseWhitespace (collapseWhitespace a ++ collapseWhitespace b) := by
  refine ⟨collapseWhitespace_escapeRun t last, collapseFrom_escapeLiteral t false, ?_, ?_, ?_, ?_,
    collapseWhitespace_append⟩
  · exact isSqueezed_collapseFrom false t
  · exact collapseWhitespace_eq_self_iff
  · exact collapseWhitespace_eq_nil_iff
  · exact filter_collapseFrom false t

end ChatMarkup
