import ChatMarkup.Latex.Rule
import ChatMarkup.Latex.Symbols

namespace ChatMarkup.Latex

/-- Reads a group in braces: its content, which is not empty and has no closing brace, and what
follows it. -/
def group? : Text → Option (Text × Text)
  | '{' :: t =>
    match t.takeWhile (· != '}'), t.dropWhile (· != '}') with
    | c :: content, _ :: rest => some (c :: content, rest)
    | _, _ => none
  | _ => none

theorem takeWhile_append_of_not_mem {content : Text} (rest : Text) (h : '}' ∉ content) :
    (content ++ '}' :: rest).takeWhile (· != '}') = content ∧
      (content ++ '}' :: rest).dropWhile (· != '}') = '}' :: rest := by
  induction content with
  | nil => simp
  | cons c content ih =>
    simp only [List.mem_cons, not_or] at h
    have hc : (c != '}') = true := by simpa using Ne.symm h.1
    simp [hc, ih h.2]

theorem group?_eq_some_iff {t content rest : Text} :
    group? t = some (content, rest) ↔
      content ≠ [] ∧ '}' ∉ content ∧ t = '{' :: (content ++ '}' :: rest) := by
  constructor
  · intro h
    unfold group? at h
    split at h
    · rename_i t
      split at h
      · rename_i c as b bs ha hb
        simp only [Option.some.injEq, Prod.mk.injEq] at h
        obtain ⟨rfl, rfl⟩ := h
        have hall : ∀ x ∈ t.takeWhile (· != '}'), (x != '}') = true :=
          List.all_eq_true.mp List.all_takeWhile
        have hb' : b = '}' := by
          have hne : t.dropWhile (· != '}') ≠ [] := by simp [hb]
          have := List.head_dropWhile_not (· != '}') hne
          simpa [hb] using this
        refine ⟨by simp, fun hm => by simpa using hall '}' (ha ▸ hm), ?_⟩
        have := List.takeWhile_append_dropWhile (p := (· != '}')) (l := t)
        rw [ha, hb, hb'] at this
        rw [this]
      · simp at h
    · simp at h
  · rintro ⟨hne, hmem, rfl⟩
    obtain ⟨h1, h2⟩ := takeWhile_append_of_not_mem rest hmem
    cases content with
    | nil => exact absurd rfl hne
    | cons c content => simp only [group?, h1, h2]

theorem length_lt_of_group? {t content rest : Text} (h : group? t = some (content, rest)) :
    rest.length < t.length := by
  obtain ⟨_, _, rfl⟩ := group?_eq_some_iff.mp h
  simp only [List.length_cons, List.length_append]
  omega

theorem length_le_of_dropFront? {key t rest : Text} (h : Text.dropFront? key t = some rest) :
    rest.length ≤ t.length := by
  rw [Text.dropFront?_eq_some_iff.mp h]
  simp

/-- The first command of a table that stands at a backslash becomes its glyph. -/
def firstMatch (table : List (Text × Text)) : Rule where
  step t :=
    if t.head? = some '\\' then
      match table.find? (·.1.isPrefixOf t) with
      | some entry => if entry.1 = [] then none else some (entry.2, t.drop entry.1.length)
      | none => none
    else none
  shorter := by
    intro t image rest h
    split at h
    · rename_i hhead
      split at h
      · rename_i entry _
        split at h
        · cases h
        · rename_i hne
          cases h
          obtain ⟨tail, rfl⟩ := List.head?_eq_some_iff.mp hhead
          have hpos := List.length_pos_iff.mpr hne
          simp only [List.length_drop, List.length_cons]
          omega
      · cases h
    · cases h

def searchRule (table : List (Text × Text)) : Rule := firstMatch (byLength table)

def symbolRule : Rule := firstMatch symbolsByLength

/-- A fraction becomes numerator, slash, denominator. -/
def fractionRule : Rule where
  step t := do
    let t ← Text.dropFront? ['\\', 'f', 'r', 'a', 'c'] t
    let (a, t) ← group? t
    let (b, t) ← group? t
    return (a ++ '/' :: b, t)
  shorter := by
    intro t image rest h
    simp only [bind, Option.bind_eq_some_iff, pure, Option.some.injEq, Prod.mk.injEq] at h
    obtain ⟨t1, h1, ⟨a, t2⟩, h2, ⟨b, t3⟩, h3, -, rfl⟩ := h
    have h1 := length_le_of_dropFront? h1
    have h2 : t2.length < t1.length := length_lt_of_group? h2
    have h3 : t3.length < t2.length := length_lt_of_group? h3
    change t3.length < t.length
    omega

/-- A root becomes the root sign and what stands under it. -/
def rootRule : Rule where
  step t := do
    let t ← Text.dropFront? ['\\', 's', 'q', 'r', 't'] t
    let (a, t) ← group? t
    return ('√' :: a, t)
  shorter := by
    intro t image rest h
    simp only [bind, Option.bind_eq_some_iff, pure, Option.some.injEq, Prod.mk.injEq] at h
    obtain ⟨t1, h1, ⟨a, t2⟩, h2, -, rfl⟩ := h
    have h1 := length_le_of_dropFront? h1
    have h2 : t2.length < t1.length := length_lt_of_group? h2
    change t2.length < t.length
    omega

/-- A single digit in a superscript group becomes a superscript digit. -/
def superscriptAt? : Text → Option (Text × Text)
  | '^' :: '{' :: d :: '}' :: rest => (superscript? [d]).map (·, rest)
  | _ => none

def superscriptRule : Rule where
  step := superscriptAt?
  shorter := by
    intro t image rest h
    unfold superscriptAt? at h
    split at h
    · simp only [Option.map_eq_some_iff, Prod.mk.injEq] at h
      obtain ⟨_, _, _, rfl⟩ := h
      simp only [List.length_cons]
      omega
    · simp at h

/-- A subscript group becomes its subscript form or, lacking one, loses its braces. -/
def subscriptRule : Rule where
  step t := do
    let t ← Text.dropFront? ['_'] t
    let (a, t) ← group? t
    return ((subscript? a).getD ('_' :: a), t)
  shorter := by
    intro t image rest h
    simp only [bind, Option.bind_eq_some_iff, pure, Option.some.injEq, Prod.mk.injEq] at h
    obtain ⟨t1, h1, ⟨a, t2⟩, h2, -, rfl⟩ := h
    have h1 := length_le_of_dropFront? h1
    have h2 : t2.length < t1.length := length_lt_of_group? h2
    change t2.length < t.length
    omega

/-- The stages in the order in which they run, each on the result of the one before. -/
def stages : List Rule := [symbolRule, fractionRule, rootRule, superscriptRule, subscriptRule]

def normalize (t : Text) : Text := stages.foldl (fun t rule => rule.replaceAll t) t

/-- The commands that mark a text as LaTeX without being symbols. -/
def structuralCommands : List Text :=
  ["\\frac".toList, "\\sqrt".toList, "\\begin".toList, "\\end".toList, "\\left".toList,
    "\\right".toList, "\\limits".toList, "\\displaystyle".toList]

/-- Whether a text is taken for LaTeX: it has at least `minLength` bytes, and a structural command
or a symbol occurs in it. -/
def detect (minLength : Nat) (t : Text) : Bool :=
  minLength ≤ Text.utf8Length t &&
    (structuralCommands.any (Text.occurs · t) || symbolTable.any fun s => Text.occurs s.1 t)

end ChatMarkup.Latex
