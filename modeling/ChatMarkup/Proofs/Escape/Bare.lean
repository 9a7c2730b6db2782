import ChatMarkup.Proofs.Escape.Squeezed

namespace ChatMarkup

/-- The reserved characters that no backslash protects, if no backslash is left over at the end. -/
def bare? : Text → Option Text
  | [] => some []
  | ['\\'] => none
  | '\\' :: _ :: t => bare? t
  | c :: t => (bare? t).map fun rest => if isReserved c then c :: rest else rest

/-- The unprotected characters of a text apart from periods and exclamation marks. -/
def marks? (t : Text) : Option Text := (bare? t).map (·.filter fun c => c != '.' && c != '!')

theorem bare?_backslash (c : Char) (t : Text) : bare? ('\\' :: c :: t) = bare? t := rfl

theorem bare?_cons {c : Char} (h : c ≠ '\\') (t : Text) :
    bare? (c :: t) = (bare? t).map fun rest => if isReserved c then c :: rest else rest := by
  rw [bare?] <;> simp [h]

theorem bare?_append {a b x y : Text} (ha : bare? a = some x) (hb : bare? b = some y) :
    bare? (a ++ b) = some (x ++ y) := by
  induction a using bare?.induct generalizing x with
  | case1 =>
    cases ha
    exact hb
  | case2 => cases ha
  | case3 c t ih => exact ih ha
  | case4 c t h1 h2 ih =>
    have hc := ne_backslash_of_not_pair h1 h2
    rw [bare?_cons hc, Option.map_eq_some_iff] at ha
    obtain ⟨z, hz, rfl⟩ := ha
    rw [List.cons_append, bare?_cons hc, ih hz, Option.map_some]
    split_ifs <;> rfl

theorem marks?_append {a b x y : Text} (ha : marks? a = some x) (hb : marks? b = some y) :
    marks? (a ++ b) = some (x ++ y) := by
  rw [marks?, Option.map_eq_some_iff] at ha hb
  obtain ⟨x', hx, rfl⟩ := ha
  obtain ⟨y', hy, rfl⟩ := hb
  rw [marks?, bare?_append hx hy, Option.map_some, List.filter_append]

theorem bare?_of_unreserved {t : Text} (h : ∀ c ∈ t, isReserved c = false) :
    bare? t = some [] := by
  induction t with
  | nil => rfl
  | cons c t ih =>
    have hc := h c List.mem_cons_self
    have hne : c ≠ '\\' := by
      intro e
      subst e
      exact absurd hc (by decide)
    rw [bare?_cons hne, ih fun x hx => h x (List.mem_cons_of_mem _ hx), Option.map_some, hc]
    rfl

theorem bare?_escapeLiteral (t : Text) : bare? (escapeLiteral t) = some [] := by
  induction t with
  | nil => rfl
  | cons c t ih =>
    rw [escapeLiteral]
    cases hc : isReserved c with
    | true => exact (bare?_backslash c _).trans ih
    | false =>
      apply bare?_append (x := []) (bare?_of_unreserved _) ih
      intro x hx
      rw [List.mem_singleton.mp hx]
      exact hc

theorem marks?_cons {c : Char} {t : Text} (h : isReserved c = false ∨ c = '.' ∨ c = '!')
    (ht : marks? t = some []) : marks? (c :: t) = some [] := by
  have hone : marks? [c] = some [] := by
    rcases h with h | rfl | rfl
    · rw [marks?, bare?_of_unreserved (by simpa using h)]
      rfl
    · decide
    · decide
  exact marks?_append hone ht

theorem escapedAfter_eq_false {number : Bool} {c : Char} (h : escapedAfter number c = false) :
    isReserved c = false ∨ c = '.' ∨ c = '!' := by
  unfold escapedAfter at h
  split_ifs at h with hbang hperiod
  · exact Or.inr (Or.inr hbang)
  · exact Or.inr (Or.inl hperiod)
  · exact Or.inl h

theorem marks?_escapeRunFrom (number fresh : Bool) (t : Text) :
    marks? (escapeRunFrom number fresh t) = some [] := by
  induction t generalizing number fresh with
  | nil => rfl
  | cons c t ih =>
    rw [escapeRunFrom]
    split_ifs with hb
    · exact marks?_cons (Or.inl (isReserved_of_isBlank hb)) (ih false true)
    · cases he : escapedAfter number c with
      | true => exact ih (c.isDigit && (fresh || number)) false
      | false => exact marks?_cons (escapedAfter_eq_false he) (ih _ false)

theorem marks?_collapse_escapeRun (t last : Text) :
    marks? (collapseWhitespace (escapeRun t last)) = some [] := by
  rw [collapseWhitespace_escapeRun]
  exact marks?_escapeRunFrom _ _ _

theorem marks?_of_unreserved {t : Text} (h : ∀ c ∈ t, isReserved c = false) :
    marks? t = some [] := by
  rw [marks?, bare?_of_unreserved h]
  rfl

theorem marks?_escapeLiteral (t : Text) : marks? (escapeLiteral t) = some [] := by
  rw [marks?, bare?_escapeLiteral]
  rfl

end ChatMarkup
