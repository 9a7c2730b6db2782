import ChatMarkup.Proofs.Escape.Bare

namespace ChatMarkup

def isStyleMark (c : Char) : Bool := c == '_' || c == '*' || c == '~'

/-- The text that a reader sees, if no backslash is left over at the end: a backslash shows the
character after it, an unprotected style mark is not shown, and all else is shown as it is. -/
def shown? : Text → Option Text
  | [] => some []
  | ['\\'] => none
  | '\\' :: c :: t => (shown? t).map (c :: ·)
  | c :: t => if isStyleMark c then shown? t else (shown? t).map (c :: ·)

theorem shown?_backslash (c : Char) (t : Text) :
    shown? ('\\' :: c :: t) = (shown? t).map (c :: ·) := rfl

theorem shown?_cons {c : Char} (h : c ≠ '\\') (t : Text) :
    shown? (c :: t) = if isStyleMark c then shown? t else (shown? t).map (c :: ·) := by
  rw [shown?] <;> simp [h]

theorem shown?_append {a b x y : Text} (ha : shown? a = some x) (hb : shown? b = some y) :
    shown? (a ++ b) = some (x ++ y) := by
  induction a using shown?.induct generalizing x with
  | case1 =>
    cases ha
    exact hb
  | case2 => cases ha
  | case3 c t ih =>
    rw [shown?_backslash, Option.map_eq_some_iff] at ha
    obtain ⟨z, hz, rfl⟩ := ha
    rw [List.cons_append, List.cons_append, shown?_backslash, ih hz]
    rfl
  | case4 c t h1 h2 hmark ih =>
    have hc := ne_backslash_of_not_pair h1 h2
    rw [shown?_cons hc, if_pos hmark] at ha
    rw [List.cons_append, shown?_cons hc, if_pos hmark, ih ha]
  | case5 c t h1 h2 hmark ih =>
    have hc := ne_backslash_of_not_pair h1 h2
    rw [shown?_cons hc, if_neg hmark, Option.map_eq_some_iff] at ha
    obtain ⟨z, hz, rfl⟩ := ha
    rw [List.cons_append, shown?_cons hc, if_neg hmark, ih hz]
    rfl

theorem shown?_cons_plain {c : Char} {t x : Text} (h : isReserved c = false ∨ c = '.' ∨ c = '!')
    (ht : shown? t = some x) : shown? (c :: t) = some (c :: x) := by
  have hc : c ≠ '\\' := by
    rintro rfl
    revert h
    decide
  have hmark : isStyleMark c = false := by
    by_contra hmark
    simp only [isStyleMark, Bool.or_eq_true, beq_iff_eq, Bool.not_eq_false] at hmark
    rcases hmark with (rfl | rfl) | rfl
    all_goals
      revert h
      decide
  rw [shown?_cons hc, hmark, ht]
  rfl

theorem shown?_escapeRunFrom (number fresh : Bool) (t : Text) :
    shown? (escapeRunFrom number fresh t) = some t := by
  induction t generalizing number fresh with
  | nil => rfl
  | cons c t ih =>
    rw [escapeRunFrom]
    split_ifs with hb
    · exact shown?_cons_plain (Or.inl (isReserved_of_isBlank hb)) (ih false true)
    · have hrest := ih (c.isDigit && (fresh || number)) false
      cases he : escapedAfter number c with
      | true => exact (shown?_backslash c _).trans (congrArg (Option.map (c :: ·)) hrest)
      | false => exact shown?_cons_plain (escapedAfter_eq_false he) hrest

theorem shown?_collapse_escapeRun (t last : Text) :
    shown? (collapseWhitespace (escapeRun t last)) = some (collapseWhitespace t) := by
  rw [collapseWhitespace_escapeRun]
  exact shown?_escapeRunFrom _ _ _

end ChatMarkup
