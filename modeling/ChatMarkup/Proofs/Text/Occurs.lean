import ChatMarkup.Text.Basic
import Mathlib.Data.List.Infix

namespace ChatMarkup.Text

theorem occurs_iff {key t : Text} : occurs key t = true ↔ key <:+: t := by
  induction t with
  | nil => simp [occurs]
  | cons c t ih => rw [occurs, Bool.or_eq_true, ih, List.isPrefixOf_iff_prefix, List.infix_cons_iff]

theorem occurs_of_isInfix {key part t : Text} (h : part <:+: t) (hk : occurs key part = true) :
    occurs key t = true := by
  rw [occurs_iff] at hk ⊢
  exact hk.trans h

theorem occurs_eq_false_of_isInfix {key part t : Text} (h : part <:+: t)
    (ht : occurs key t = false) : occurs key part = false := by
  by_contra hkey
  rw [Bool.not_eq_false] at hkey
  rw [occurs_of_isInfix h hkey] at ht
  cases ht

theorem occurs_append_eq_false {key a b : Text} (h : occurs key (a ++ b) = false) :
    occurs key a = false ∧ occurs key b = false :=
  ⟨occurs_eq_false_of_isInfix (List.prefix_append a b).isInfix h,
    occurs_eq_false_of_isInfix (List.suffix_append a b).isInfix h⟩

theorem occurs_eq_false {key t : Text} {c : Char} (hc : c ∈ key) (ht : c ∉ t) :
    occurs key t = false := by
  by_contra h
  have hkey : key <:+: t := occurs_iff.mp (by simpa using h)
  exact ht (hkey.subset hc)

theorem occurs_pair_cons {a b c : Char} {t : Text} (h : ¬(c = a ∧ t.head? = some b)) :
    occurs [a, b] (c :: t) = occurs [a, b] t := by
  have hfront : [a, b].isPrefixOf (c :: t) = false := by
    cases t with
    | nil => simp [List.isPrefixOf]
    | cons d t =>
      rw [Bool.eq_false_iff]
      intro hstart
      apply h
      simp only [List.isPrefixOf, Bool.and_true, Bool.and_eq_true, beq_iff_eq] at hstart
      exact ⟨hstart.1.symm, by rw [hstart.2]; rfl⟩
  rw [occurs, hfront, Bool.false_or]

theorem occurs_pair_concat {a b c : Char} {t : Text} (h : ¬(c = b ∧ t.getLast? = some a)) :
    occurs [a, b] (t ++ [c]) = occurs [a, b] t := by
  rw [Bool.eq_iff_iff, occurs_iff, occurs_iff, List.infix_concat_iff]
  refine or_iff_right fun hend => h ?_
  obtain ⟨front, hfront⟩ := hend
  have hlast : front ++ [a] ++ [b] = t ++ [c] := by simpa using hfront
  obtain ⟨hfront, hc⟩ := List.append_inj' hlast rfl
  refine ⟨(List.cons.inj hc).1.symm, ?_⟩
  rw [← hfront, List.getLast?_concat]

theorem cut?_eq_none {key t : Text} (h : occurs key t = false) : cut? key t = none := by
  cases hcut : cut? key t with
  | none => rfl
  | some parts =>
    obtain ⟨before, rest⟩ := parts
    have hkey : key <:+: t := ⟨before, rest, (cut?_eq_some hcut).symm⟩
    rw [occurs_iff.mpr hkey] at h
    cases h

theorem dropFront?_pair {a b c d : Char} (t : Text) (h : ¬(c = a ∧ d = b)) :
    dropFront? [a, b] (c :: d :: t) = none := by
  simp only [dropFront?]
  split_ifs with ha hb
  · exact absurd ⟨ha.symm, hb.symm⟩ h
  · rfl
  · rfl

theorem cut?_pair {a b : Char} (hab : a ≠ b) {before : Text} (rest : Text)
    (h : occurs [a, b] before = false) :
    cut? [a, b] (before ++ a :: b :: rest) = some (before, rest) := by
  induction before with
  | nil => simp [cut?, dropFront?]
  | cons c before ih =>
    rw [occurs, Bool.or_eq_false_iff] at h
    have hfront : dropFront? [a, b] (c :: (before ++ a :: b :: rest)) = none := by
      cases before with
      | nil => exact dropFront?_pair _ fun e => hab e.2
      | cons d before =>
        apply dropFront?_pair
        intro hex
        obtain ⟨rfl, rfl⟩ := hex
        simp at h
    rw [List.cons_append, cut?, hfront, ih h.2]
    rfl

theorem dropFront?_eq_none_iff {key t : Text} : dropFront? key t = none ↔ ¬key <+: t := by
  rw [Option.eq_none_iff_forall_ne_some]
  constructor
  · intro h hprefix
    obtain ⟨rest, hrest⟩ := hprefix
    exact h rest (dropFront?_eq_some_iff.mpr hrest.symm)
  · intro h rest hrest
    exact h ⟨rest, (dropFront?_eq_some_iff.mp hrest).symm⟩

theorem dropFront?_concat {key : Text} {c : Char} (h : c ∉ key) (t : Text) :
    dropFront? key (t ++ [c]) = (dropFront? key t).map (· ++ [c]) := by
  induction key generalizing t with
  | nil => rfl
  | cons k key ih =>
    rw [List.mem_cons, not_or] at h
    cases t with
    | nil => exact if_neg (Ne.symm h.1)
    | cons d t =>
      rw [List.cons_append, dropFront?, dropFront?, ih h.2]
      split_ifs <;> rfl

theorem cut?_concat {key : Text} {c : Char} (hkey : key ≠ []) (h : c ∉ key) (t : Text) :
    cut? key (t ++ [c]) = (cut? key t).map fun parts => (parts.1, parts.2 ++ [c]) := by
  induction t with
  | nil =>
    have hempty : dropFront? key [] = none :=
      dropFront?_eq_none_iff.mpr fun hprefix => hkey (List.prefix_nil.mp hprefix)
    have hfront := dropFront?_concat h []
    rw [List.nil_append, hempty] at hfront
    rw [List.nil_append, cut?, hempty, cut?, hfront, cut?, hempty]
    rfl
  | cons d t ih =>
    have hfront := dropFront?_concat h (d :: t)
    rw [List.cons_append] at hfront
    rw [List.cons_append, cut?, cut?, hfront, ih]
    cases dropFront? key (d :: t) with
    | some rest => rfl
    | none => rw [Option.map_map, Option.map_map]; rfl

theorem occurs_eq_false_of_cut? {key t : Text} (h : cut? key t = none) : occurs key t = false := by
  induction t with
  | nil =>
    rw [cut?, Option.map_eq_none_iff, dropFront?_eq_none_iff] at h
    rw [← Bool.not_eq_true, occurs_iff]
    exact fun hkey => h (List.infix_nil.mp hkey ▸ List.prefix_refl _)
  | cons c t ih =>
    rw [cut?] at h
    split at h
    · cases h
    · rename_i hfront
      rw [Option.map_eq_none_iff] at h
      rw [occurs, ih h, Bool.or_false, ← Bool.not_eq_true, List.isPrefixOf_iff_prefix]
      exact dropFront?_eq_none_iff.mp hfront

theorem occurs_concat_of_cut? {a b : Char} {t before rest : Text}
    (h : cut? [a, b] t = some (before, rest)) : occurs [a, b] (before ++ [a]) = false := by
  induction t generalizing before with
  | nil => cases h
  | cons c t ih =>
    rw [cut?] at h
    split at h
    · cases h
      simp [occurs]
    · rename_i hfront
      simp only [Option.map_eq_some_iff, Prod.mk.injEq, Prod.exists] at h
      obtain ⟨before, rest, hcut, rfl, rfl⟩ := h
      rw [List.cons_append, occurs_pair_cons, ih hcut]
      intro hpair
      obtain ⟨rfl, hhead⟩ := hpair
      have hsecond : t.head? = some b := by
        have ht : t = before ++ [c] ++ b :: rest := by simpa using cut?_eq_some hcut
        rw [ht, List.head?_append, hhead]
        rfl
      obtain ⟨t', rfl⟩ := List.head?_eq_some_iff.mp hsecond
      exact dropFront?_eq_none_iff.mp hfront ⟨t', rfl⟩

theorem utf8Length_append (a b : Text) : utf8Length (a ++ b) = utf8Length a + utf8Length b := by
  induction a with
  | nil => simp [utf8Length]
  | cons c a ih =>
    change c.utf8Size + utf8Length (a ++ b) = c.utf8Size + utf8Length a + utf8Length b
    rw [ih, Nat.add_assoc]

theorem utf8Length_pos_iff {t : Text} : 0 < utf8Length t ↔ t ≠ [] := by
  cases t with
  | nil => simp [utf8Length]
  | cons c t =>
    have hc := c.utf8Size_pos
    simp only [utf8Length, List.foldr_cons, ne_eq, reduceCtorEq, not_false_eq_true, iff_true]
    omega

theorem utf8Length_le_of_isInfix {part t : Text} (h : part <:+: t) :
    utf8Length part ≤ utf8Length t := by
  obtain ⟨before, after, rfl⟩ := h
  rw [utf8Length_append, utf8Length_append]
  omega

theorem infix_join (mark : Text) {part : Text} {parts : List Text} (h : part ∈ parts) :
    part <:+: join mark parts := by
  induction parts with
  | nil => cases h
  | cons head parts ih =>
    cases parts with
    | nil =>
      rw [List.mem_singleton.mp h]
      exact List.infix_refl _
    | cons next parts =>
      rw [join_cons_cons]
      obtain rfl | h := List.mem_cons.mp h
      · exact ⟨[], mark ++ join mark (next :: parts), by simp⟩
      · exact (ih h).trans (List.suffix_append _ _).isInfix

theorem join_append_head (mark a part : Text) (parts : List Text) :
    join mark ((a ++ part) :: parts) = a ++ join mark (part :: parts) := by
  induction a with
  | nil => rfl
  | cons c a ih => rw [List.cons_append, join_cons_head, ih, List.cons_append]

theorem join_cons_inj {mark a b : Text} {parts : List Text} :
    join mark (a :: parts) = join mark (b :: parts) ↔ a = b := by
  have hsplit : ∀ x, join mark (x :: parts) = x ++ join mark ([] :: parts) := by
    intro x
    rw [← join_append_head, List.append_nil]
  rw [hsplit a, hsplit b, List.append_left_inj]

end ChatMarkup.Text
