import ChatMarkup.Text.Basic

namespace ChatMarkup.Latex

/-- A rule: what it matches at the front of a text becomes an image, and the text after the match
is shorter than the text. -/
structure Rule where
  step : Text → Option (Text × Text)
  shorter : ∀ {t image rest : Text}, step t = some (image, rest) → rest.length < t.length

namespace Rule

def replaceAll (r : Rule) : Text → Text
  | [] => []
  | c :: t =>
    match _h : r.step (c :: t) with
    | some (image, rest) => image ++ r.replaceAll rest
    | none => c :: r.replaceAll t
termination_by t => t.length
decreasing_by
  · exact r.shorter _h
  · simp

@[simp] theorem replaceAll_nil (r : Rule) : r.replaceAll [] = [] := by rw [replaceAll]

theorem replaceAll_cons_of_step {r : Rule} {c : Char} {t image rest : Text}
    (h : r.step (c :: t) = some (image, rest)) :
    r.replaceAll (c :: t) = image ++ r.replaceAll rest := by
  rw [replaceAll]
  split <;> simp_all

theorem replaceAll_cons_of_none {r : Rule} {c : Char} {t : Text} (h : r.step (c :: t) = none) :
    r.replaceAll (c :: t) = c :: r.replaceAll t := by
  rw [replaceAll]
  split <;> simp_all

theorem replaceAll_eq_self_of_step {r : Rule} {t : Text}
    (h : ∀ s image rest, s <:+ t → r.step s = some (image, rest) → s = image ++ rest) :
    r.replaceAll t = t := by
  fun_induction replaceAll r t with
  | case1 => rfl
  | case2 c t image rest hstep ih =>
    have hmatch : c :: t = image ++ rest := h _ _ _ (List.suffix_refl _) hstep
    have hrest : rest <:+ c :: t := hmatch ▸ List.suffix_append image rest
    rw [ih fun s image' rest' hs => h s image' rest' (hs.trans hrest), hmatch]
  | case3 c t _ ih =>
    rw [ih fun s image rest hs => h s image rest (hs.trans (List.suffix_cons c t))]

end Rule
end ChatMarkup.Latex
