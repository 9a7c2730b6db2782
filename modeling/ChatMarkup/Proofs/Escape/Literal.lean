import ChatMarkup.Escape
import Mathlib.Data.List.DropRight

namespace ChatMarkup

theorem isReserved_eq_false_of {p : Char → Bool} {c : Char} (hp : reserved.any p = false)
    (h : p c = true) : isReserved c = false := by
  by_contra hne
  have hc : c ∈ reserved := List.contains_iff_mem.mp (by simpa [isReserved] using hne)
  exact List.any_eq_false.mp hp c hc h

theorem isReserved_of_isBlank {c : Char} (h : isBlank c = true) : isReserved c = false :=
  isReserved_eq_false_of (by decide) h

theorem ne_backslash_of_isReserved {c : Char} (h : isReserved c = false) : c ≠ '\\' := by
  intro e
  subst e
  exact absurd h (by decide)

theorem ne_backslash_of_not_pair {c : Char} {t : Text} (hlast : c = '\\' → t = [] → False)
    (hpair : ∀ next rest, c = '\\' → t = next :: rest → False) : c ≠ '\\' := by
  intro e
  cases t with
  | nil => exact hlast e rfl
  | cons next rest => exact hpair next rest e rfl

theorem escapeLiteral_cons (c : Char) (t : Text) :
    escapeLiteral (c :: t) = escapeChar (isReserved c) c ++ escapeLiteral t := rfl

theorem escapeLiteral_singleton (c : Char) :
    escapeLiteral [c] = escapeChar (isReserved c) c := List.append_nil _

theorem dropWhile_escapeLiteral {p : Char → Bool} (hp : reserved.any p = false) (t : Text) :
    (escapeLiteral t).dropWhile p = escapeLiteral (t.dropWhile p) := by
  induction t with
  | nil => rfl
  | cons c t ih =>
    rw [escapeLiteral_cons]
    cases hc : p c with
    | true =>
      rw [isReserved_eq_false_of hp hc, List.dropWhile_cons_of_pos hc]
      exact (List.dropWhile_cons_of_pos hc).trans ih
    | false =>
      rw [List.dropWhile_cons_of_neg (by simp [hc]), escapeLiteral_cons]
      cases isReserved c with
      | true => exact List.dropWhile_cons_of_neg (List.any_eq_false.mp hp '\\' (by decide))
      | false => exact List.dropWhile_cons_of_neg (by simp [hc])

theorem dropEndWhile_escapeLiteral {p : Char → Bool} (hp : reserved.any p = false) (t : Text) :
    Text.dropEndWhile p (escapeLiteral t) = escapeLiteral (Text.dropEndWhile p t) := by
  change (escapeLiteral t).rdropWhile p = escapeLiteral (t.rdropWhile p)
  induction t using List.reverseRecOn with
  | nil => rfl
  | append_singleton t c ih =>
    rw [escapeLiteral_append, escapeLiteral_singleton]
    cases hc : p c with
    | true =>
      rw [isReserved_eq_false_of hp hc, List.rdropWhile_concat_pos _ _ _ hc, ← ih]
      exact List.rdropWhile_concat_pos _ _ _ hc
    | false =>
      have hneg : ¬p c = true := by simp [hc]
      rw [List.rdropWhile_concat_neg _ _ _ hneg, escapeLiteral_append, escapeLiteral_singleton]
      cases isReserved c with
      | true =>
        change List.rdropWhile p (escapeLiteral t ++ ['\\', c]) = escapeLiteral t ++ ['\\', c]
        rw [List.append_cons]
        exact List.rdropWhile_concat_neg _ _ _ hneg
      | false => exact List.rdropWhile_concat_neg _ _ _ hneg

theorem trim_escapeLiteral (t : Text) :
    Text.trim (escapeLiteral t) = escapeLiteral (Text.trim t) := by
  have hp : reserved.any isBlank = false := by decide
  rw [Text.trim, dropWhile_escapeLiteral hp, dropEndWhile_escapeLiteral hp, Text.trim]

end ChatMarkup
