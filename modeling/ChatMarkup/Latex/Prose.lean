import ChatMarkup.Escape
import ChatMarkup.Table.Grid
import ChatMarkup.Latex.Normalize

namespace ChatMarkup.Latex

def span? (opening closing t : Text) : Option (Text × Text) := do
  let t ← Text.dropFront? opening t
  Text.cut? closing t

theorem span?_eq_some {opening closing t content rest : Text}
    (h : span? opening closing t = some (content, rest)) :
    t = opening ++ (content ++ closing ++ rest) := by
  simp only [span?, bind, Option.bind_eq_some_iff] at h
  obtain ⟨a, ha, hb⟩ := h
  rw [Text.dropFront?_eq_some_iff.mp ha, Text.cut?_eq_some hb]

/-- The code that a span becomes; a block is fenced. -/
def spanCode (block : Bool) (content : Text) : Text :=
  let code := Text.trim (escapeLiteral (normalize content))
  if block then fence ++ '\n' :: code ++ '\n' :: fence else '\x60' :: code ++ ['\x60']

def delimiters (block : Bool) : Text × Text :=
  if block then (['\\', '['], ['\\', ']']) else (['\\', '('], ['\\', ')'])

/-- Spans of LaTeX become code, all others stay as they are. -/
def spanRule (minLength : Nat) (block : Bool) : Rule where
  step t :=
    let (opening, closing) := delimiters block
    (span? opening closing t).map fun (content, rest) =>
      (if detect minLength content then spanCode block content
        else opening ++ content ++ closing, rest)
  shorter := by
    intro t image rest h
    cases block <;>
    · simp only [delimiters, Option.map_eq_some_iff, Prod.mk.injEq] at h
      obtain ⟨⟨content, r⟩, h1, -, rfl⟩ := h
      rw [span?_eq_some h1]
      simp only [Bool.false_eq_true, if_false, if_true, List.length_append, List.length_cons,
        List.length_nil]
      omega

/-- The paragraphs of a text, which pairs of line breaks separate. -/
def paragraphs : Text → List Text
  | [] => [[]]
  | '\n' :: '\n' :: t => [] :: paragraphs t
  | c :: t =>
    match paragraphs t with
    | [] => [[c]]
    | p :: ps => (c :: p) :: ps

theorem paragraphs_ne_nil (t : Text) : paragraphs t ≠ [] := by
  fun_cases paragraphs t with
  | case1 => exact List.cons_ne_nil _ _
  | case2 => exact List.cons_ne_nil _ _
  | case3 => exact List.cons_ne_nil _ _
  | case4 => exact List.cons_ne_nil _ _

theorem join_paragraphs (t : Text) : Text.join ['\n', '\n'] (paragraphs t) = t := by
  fun_induction paragraphs t with
  | case1 => rfl
  | case2 t ih =>
    cases hp : paragraphs t with
    | nil => exact absurd hp (paragraphs_ne_nil t)
    | cons p ps =>
      rw [Text.join_cons_cons, ← hp, ih]
      rfl
  | case3 c t _ hp => exact absurd hp (paragraphs_ne_nil t)
  | case4 c t _ p ps hp ih =>
    rw [hp] at ih
    rw [Text.join_cons_head, ih]

def escapeParagraph (minLength : Nat) (t : Text) : Text :=
  (spanRule minLength false).replaceAll ((spanRule minLength true).replaceAll t)

def escapeLatex (minLength : Nat) (t : Text) : Text :=
  Text.join ['\n', '\n'] ((paragraphs t).map (escapeParagraph minLength))

end ChatMarkup.Latex
