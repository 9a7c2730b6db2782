import ChatMarkup.Text.Blank
import Mathlib.Data.List.DropRight

namespace ChatMarkup.Text

variable {p : Char → Bool} {c : Char} {t x y : Text}

/-- What is left of a text, up to a character that could have been dropped, stood there behind one
that could not. -/
theorem dropWhile_eq_append_cons_iff (hc : p c = true) :
    t.dropWhile p = x ++ c :: y ↔
      ∃ before, t = before ++ c :: y ∧ (∃ a ∈ before, p a = false) ∧ before.dropWhile p = x := by
  constructor
  · intro h
    have hsplit : t = t.takeWhile p ++ x ++ c :: y := by
      rw [List.append_assoc, ← h, List.takeWhile_append_dropWhile]
    have hhead : ∀ a rest, t.dropWhile p = a :: rest → p a = false := by
      intro a rest hrest
      have hnot := List.head_dropWhile_not p (l := t) (by simp [hrest])
      simpa [hrest] using hnot
    cases x with
    | nil =>
      rw [hhead c y h] at hc
      cases hc
    | cons a x =>
      have ha : p a = false := hhead a (x ++ c :: y) h
      refine ⟨t.takeWhile p ++ a :: x, hsplit, ⟨a, by simp, ha⟩, ?_⟩
      rw [List.dropWhile_append_of_pos fun _ => List.mem_takeWhile_imp,
        List.dropWhile_cons_of_neg (by simp [ha])]
  · rintro ⟨before, rfl, ⟨a, ha, hpa⟩, rfl⟩
    have hne : (before.dropWhile p).isEmpty = false := by
      rw [List.isEmpty_eq_false_iff, Ne, List.dropWhile_eq_nil_iff]
      intro hall
      rw [hall a ha] at hpa
      cases hpa
    rw [List.dropWhile_append, hne]
    rfl

theorem rdropWhile_eq_append_cons_iff (hc : p c = true) :
    t.rdropWhile p = x ++ c :: y ↔
      ∃ after, t = x ++ c :: after ∧ (∃ a ∈ after, p a = false) ∧ after.rdropWhile p = y := by
  have hreverse : t.rdropWhile p = x ++ c :: y ↔
      t.reverse.dropWhile p = y.reverse ++ c :: x.reverse := by
    rw [List.rdropWhile, List.reverse_eq_iff]
    simp
  rw [hreverse, dropWhile_eq_append_cons_iff hc]
  constructor
  · rintro ⟨before, hsplit, ⟨a, ha, hpa⟩, hy⟩
    refine ⟨before.reverse, ?_, ⟨a, List.mem_reverse.mpr ha, hpa⟩, ?_⟩
    · rw [← List.reverse_inj, hsplit]
      simp
    · rw [List.rdropWhile, List.reverse_reverse, hy, List.reverse_reverse]
  · rintro ⟨after, rfl, ⟨a, ha, hpa⟩, rfl⟩
    refine ⟨after.reverse, by simp, ⟨a, List.mem_reverse.mpr ha, hpa⟩, ?_⟩
    rw [List.rdropWhile, List.reverse_reverse]

theorem trim_eq_append_cons_iff (hc : isBlank c = true) :
    trim t = x ++ c :: y ↔ ∃ before after, t = before ++ c :: after ∧
      (∃ a ∈ before, isBlank a = false) ∧ (∃ a ∈ after, isBlank a = false) ∧
      before.dropWhile isBlank = x ∧ after.rdropWhile isBlank = y := by
  change (t.dropWhile isBlank).rdropWhile isBlank = x ++ c :: y ↔ _
  rw [rdropWhile_eq_append_cons_iff hc]
  constructor
  · rintro ⟨after, hdrop, hafter, hy⟩
    obtain ⟨before, ht, hbefore, hx⟩ := (dropWhile_eq_append_cons_iff hc).mp hdrop
    exact ⟨before, after, ht, hbefore, hafter, hx, hy⟩
  · rintro ⟨before, after, ht, hbefore, hafter, hx, hy⟩
    exact ⟨after, (dropWhile_eq_append_cons_iff hc).mpr ⟨before, ht, hbefore, hx⟩, hafter, hy⟩

theorem flatMap_eq_append_cons_iff {α : Type} {f : α → Text} {l : List α} :
    l.flatMap f = x ++ c :: y ↔ ∃ front a back u v, l = front ++ a :: back ∧ f a = u ++ c :: v ∧
      x = front.flatMap f ++ u ∧ y = v ++ back.flatMap f := by
  constructor
  · intro h
    induction l generalizing x with
    | nil => simp at h
    | cons a l ih =>
      rw [List.flatMap_cons, List.append_eq_append_iff] at h
      rcases h with ⟨u, rfl, hl⟩ | ⟨v, ha, hv⟩
      · obtain ⟨front, b, back, u', v, rfl, hb, rfl, rfl⟩ := ih hl
        exact ⟨a :: front, b, back, u', v, rfl, hb, by simp, rfl⟩
      · cases v with
        | nil =>
          obtain ⟨front, b, back, u', v, rfl, hb, hx, rfl⟩ := @ih [] hv.symm
          refine ⟨a :: front, b, back, u', v, rfl, hb, ?_, rfl⟩
          rw [List.flatMap_cons, ha, List.append_nil, List.append_assoc, ← hx, List.append_nil]
        | cons d v =>
          cases hv
          exact ⟨[], a, l, x, v, rfl, ha, rfl, rfl⟩
  · rintro ⟨front, a, back, u, v, rfl, ha, rfl, rfl⟩
    simp [ha]

theorem count_join {mark : Text} (h : c ∉ mark) (parts : List Text) :
    (join mark parts).count c = parts.flatten.count c := by
  induction parts with
  | nil => rfl
  | cons part parts ih =>
    cases parts with
    | nil => simp [join]
    | cons next parts =>
      rw [join_cons_cons, List.count_append, List.count_append, ih,
        List.count_eq_zero_of_not_mem h, Nat.add_zero, ← List.count_append, ← List.flatten_cons]

end ChatMarkup.Text
