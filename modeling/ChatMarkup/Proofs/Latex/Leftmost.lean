import ChatMarkup.Proofs.Latex.Forms
import Mathlib.Data.Nat.Find

namespace ChatMarkup.Latex

variable {R : Text → Text → Prop} {r : Rule}
  {t before m image after before' m' image' after' : Text}

/-- A rule that finds certain matches and no others, and writes for each the image it has. -/
structure Rule.Writes (r : Rule) (R : Text → Text → Prop) : Prop where
  step_iff : ∀ {t image rest}, r.step t = some (image, rest) ↔ ∃ m, R m image ∧ t = m ++ rest

def IsMatch (R : Text → Text → Prop) (m : Text) : Prop := ∃ image, R m image

/-- A text around a match, with as little before the match as possible. -/
structure Leftmost (R : Text → Text → Prop) (t before m image after : Text) : Prop where
  split : t = before ++ m ++ after
  written : R m image
  first : ∀ before' m' after', t = before' ++ m' ++ after' → IsMatch R m' →
    before.length ≤ before'.length

theorem exists_leftmost (h : Has (IsMatch R) t) :
    ∃ before m image after, Leftmost R t before m image after := by
  classical
  have hsome : ∃ n, ∃ before m after : Text, before.length = n ∧ t = before ++ m ++ after ∧
      IsMatch R m := by
    obtain ⟨m, hm, before, after, hsplit⟩ := h
    exact ⟨_, before, m, after, rfl, hsplit.symm, hm⟩
  obtain ⟨before, m, after, hlength, hsplit, image, hm⟩ := Nat.find_spec hsome
  refine ⟨before, m, image, after, hsplit, hm, fun before' m' after' hsplit' hm' => ?_⟩
  rw [hlength]
  exact Nat.find_min' hsome ⟨before', m', after', rfl, hsplit', hm'⟩

theorem Leftmost.tail {c d : Char} (h : Leftmost R (c :: t) (d :: before) m image after) :
    c = d ∧ Leftmost R t before m image after := by
  obtain ⟨hc, ht⟩ := List.cons.inj h.split
  refine ⟨hc, ht, h.written, fun before' m' after' hsplit hm => ?_⟩
  exact Nat.le_of_succ_le_succ (h.first (c :: before') m' after' (congrArg (c :: ·) hsplit) hm)

namespace Rule.Writes

theorem ne_nil (h : r.Writes R) (hm : R m image) : m ≠ [] := by
  rintro rfl
  exact Nat.lt_irrefl _ (r.shorter (h.step_iff.mpr ⟨[], hm, (List.nil_append []).symm⟩))

theorem unique (h : r.Writes R) (hm : R m image) (hm' : R m' image')
    (hsplit : m ++ after = m' ++ after') : m = m' ∧ image = image' ∧ after = after' := by
  have hstep : r.step (m ++ after) = some (image, after) := h.step_iff.mpr ⟨m, hm, rfl⟩
  have hstep' : r.step (m ++ after) = some (image', after') := h.step_iff.mpr ⟨m', hm', hsplit⟩
  cases hstep.symm.trans hstep'
  exact ⟨List.append_cancel_right hsplit, rfl, rfl⟩

theorem leftmost_unique (h : r.Writes R) (hl : Leftmost R t before m image after)
    (hl' : Leftmost R t before' m' image' after') :
    before = before' ∧ m = m' ∧ image = image' ∧ after = after' := by
  have hlength : before.length = before'.length :=
    Nat.le_antisymm (hl.first _ _ _ hl'.split ⟨image', hl'.written⟩)
      (hl'.first _ _ _ hl.split ⟨image, hl.written⟩)
  have hsplit := hl.split.symm.trans hl'.split
  rw [List.append_assoc, List.append_assoc] at hsplit
  obtain ⟨hbefore, hrest⟩ := List.append_inj hsplit hlength
  exact ⟨hbefore, h.unique hl.written hl'.written hrest⟩

theorem step_eq_none (h : r.Writes R) {d : Char}
    (hl : Leftmost R t (d :: before) m image after) : r.step t = none := by
  cases hstep : r.step t with
  | none => rfl
  | some found =>
    obtain ⟨m', hm', hsplit⟩ := h.step_iff.mp hstep
    exact absurd (hl.first [] m' _ hsplit ⟨_, hm'⟩) (Nat.not_succ_le_zero _)

/-- What stands before the leftmost match is kept, as no match starts in it. -/
theorem replaceAll_of_leftmost (h : r.Writes R)
    (hl : Leftmost R t before m image after) :
    r.replaceAll t = before ++ image ++ r.replaceAll after := by
  induction before generalizing t with
  | nil =>
    obtain ⟨c, tail, hm⟩ := List.exists_cons_of_ne_nil (h.ne_nil hl.written)
    have ht : t = c :: (tail ++ after) := hl.split.trans (by rw [hm]; rfl)
    have hstep : r.step (c :: (tail ++ after)) = some (image, after) :=
      h.step_iff.mpr ⟨m, hl.written, ht.symm.trans hl.split⟩
    rw [ht, replaceAll_cons_of_step hstep]
    rfl
  | cons d before ih =>
    cases t with
    | nil => cases hl.split
    | cons c t =>
      obtain ⟨rfl, htail⟩ := hl.tail
      rw [replaceAll_cons_of_none (h.step_eq_none hl), ih htail]
      rfl

theorem replaceAll_of_not_has (h : r.Writes R) (hnone : ¬Has (IsMatch R) t) :
    r.replaceAll t = t := by
  refine replaceAll_eq_self_of_step fun s image rest hs hstep => ?_
  obtain ⟨m, hm, rfl⟩ := h.step_iff.mp hstep
  exact absurd ⟨m, ⟨image, hm⟩, (List.prefix_append m rest).isInfix.trans hs.isInfix⟩ hnone

end Rule.Writes

def superscriptGlyphs : List (Char × Char) :=
  [('0', '⁰'), ('1', '¹'), ('2', '²'), ('3', '³'), ('4', '⁴'), ('5', '⁵'), ('6', '⁶'), ('7', '⁷'),
    ('8', '⁸'), ('9', '⁹')]

def subscriptGlyphs : List (Char × Char) :=
  [('0', '₀'), ('1', '₁'), ('2', '₂'), ('3', '₃'), ('4', '₄'), ('5', '₅'), ('6', '₆'), ('7', '₇'),
    ('8', '₈'), ('9', '₉'), ('i', 'ᵢ'), ('j', 'ⱼ'), ('k', 'ₖ'), ('n', 'ₙ'), ('m', 'ₘ')]

theorem superscript?_eq_some_iff {x : Text} : superscript? x = some image ↔
    ∃ entry ∈ superscriptGlyphs, x = [entry.1] ∧ image = [entry.2] := by
  constructor
  · intro h
    unfold superscript? at h
    split at h
    case h_11 => cases h
    all_goals
      cases h
      exact ⟨(_, _), by decide, rfl, rfl⟩
  · have hall : ∀ entry ∈ superscriptGlyphs, superscript? [entry.1] = some [entry.2] := by decide
    rintro ⟨entry, hmem, rfl, rfl⟩
    exact hall entry hmem

theorem subscript?_eq_some_iff {x : Text} : subscript? x = some image ↔
    ∃ entry ∈ subscriptGlyphs, x = [entry.1] ∧ image = [entry.2] := by
  constructor
  · intro h
    unfold subscript? at h
    split at h
    case h_16 => cases h
    all_goals
      cases h
      exact ⟨(_, _), by decide, rfl, rfl⟩
  · have hall : ∀ entry ∈ subscriptGlyphs, subscript? [entry.1] = some [entry.2] := by decide
    rintro ⟨entry, hmem, rfl, rfl⟩
    exact hall entry hmem

theorem subscript?_eq_none_iff {x : Text} :
    subscript? x = none ↔ ∀ entry ∈ subscriptGlyphs, x ≠ [entry.1] := by
  rw [Option.eq_none_iff_forall_ne_some]
  constructor
  · exact fun h entry hmem hx => h _ (subscript?_eq_some_iff.mpr ⟨entry, hmem, hx, rfl⟩)
  · intro h image hglyph
    obtain ⟨entry, hmem, hx, -⟩ := subscript?_eq_some_iff.mp hglyph
    exact h entry hmem hx

/-- The stages for what stands in braces. -/
inductive BracedStage where
  | fraction
  | root
  | superscript
  | subscript

namespace BracedStage

def rule : BracedStage → Rule
  | fraction => fractionRule
  | root => rootRule
  | superscript => superscriptRule
  | subscript => subscriptRule

example : stages = symbolRule :: [fraction, root, superscript, subscript].map rule := rfl

/-- The matches of a stage, each with its image. -/
def Matches : BracedStage → Text → Text → Prop
  | fraction, m, image => ∃ a b, IsContent a ∧ IsContent b ∧
      m = "\\frac".toList ++ braced a ++ braced b ∧ image = a ++ '/' :: b
  | root, m, image => ∃ x, IsContent x ∧ m = "\\sqrt".toList ++ braced x ∧ image = '√' :: x
  | superscript, m, image =>
    ∃ entry ∈ superscriptGlyphs, m = '^' :: braced [entry.1] ∧ image = [entry.2]
  | subscript, m, image => ∃ x, IsContent x ∧ m = '_' :: braced x ∧
      ((∃ entry ∈ subscriptGlyphs, x = [entry.1] ∧ image = [entry.2]) ∨
        (∀ entry ∈ subscriptGlyphs, x ≠ [entry.1]) ∧ image = '_' :: x)

theorem writes_rule (k : BracedStage) : k.rule.Writes k.Matches := by
  refine ⟨fun {t image rest} => ?_⟩
  cases k with
  | fraction =>
    refine step_fractionRule_iff.trans ?_
    constructor
    · rintro ⟨a, b, ha, hb, ht, himage⟩
      exact ⟨_, ⟨a, b, ha, hb, rfl, himage⟩, ht⟩
    · rintro ⟨m, ⟨a, b, ha, hb, rfl, himage⟩, ht⟩
      exact ⟨a, b, ha, hb, ht, himage⟩
  | root =>
    refine step_rootRule_iff.trans ?_
    constructor
    · rintro ⟨x, hx, ht, himage⟩
      exact ⟨_, ⟨x, hx, rfl, himage⟩, ht⟩
    · rintro ⟨m, ⟨x, hx, rfl, himage⟩, ht⟩
      exact ⟨x, hx, ht, himage⟩
  | superscript =>
    refine step_superscriptRule_iff.trans ?_
    simp only [superscript?_eq_some_iff]
    constructor
    · rintro ⟨d, ⟨entry, hmem, hd, himage⟩, ht⟩
      cases hd
      exact ⟨_, ⟨entry, hmem, rfl, himage⟩, ht⟩
    · rintro ⟨m, ⟨entry, hmem, rfl, himage⟩, ht⟩
      exact ⟨entry.1, ⟨entry, hmem, rfl, himage⟩, ht⟩
  | subscript =>
    refine step_subscriptRule_iff.trans ?_
    have hwritten (x : Text) : image = (subscript? x).getD ('_' :: x) ↔
        (∃ entry ∈ subscriptGlyphs, x = [entry.1] ∧ image = [entry.2]) ∨
          (∀ entry ∈ subscriptGlyphs, x ≠ [entry.1]) ∧ image = '_' :: x := by
      rw [eq_comm, Option.getD_eq_iff, subscript?_eq_some_iff, subscript?_eq_none_iff,
        @eq_comm _ ('_' :: x)]
    simp only [hwritten]
    constructor
    · rintro ⟨x, hx, ht, himage⟩
      exact ⟨_, ⟨x, hx, rfl, himage⟩, ht⟩
    · rintro ⟨m, ⟨x, hx, rfl, himage⟩, ht⟩
      exact ⟨x, hx, ht, himage⟩

/-- A stage keeps a text without matches. In any other there is one leftmost match: the stage keeps
what stands before it, writes its image, and goes on with what stands behind it. -/
theorem stages_rewrite_leftmost (k : BracedStage) (t : Text) :
    (¬Has (IsMatch k.Matches) t → k.rule.replaceAll t = t) ∧
    (Has (IsMatch k.Matches) t → ∃ before m image after,
      Leftmost k.Matches t before m image after ∧
      (∀ before' m' image' after', Leftmost k.Matches t before' m' image' after' →
        before' = before ∧ m' = m ∧ image' = image ∧ after' = after) ∧
      k.rule.replaceAll t = before ++ image ++ k.rule.replaceAll after) := by
  have hwrites := k.writes_rule
  refine ⟨hwrites.replaceAll_of_not_has, fun h => ?_⟩
  obtain ⟨before, m, image, after, hl⟩ := exists_leftmost h
  exact ⟨before, m, image, after, hl, fun _ _ _ _ hl' => hwrites.leftmost_unique hl' hl,
    hwrites.replaceAll_of_leftmost hl⟩

/-- A command without groups, and a fraction whose numerator starts like another one. -/
theorem stages_rewrite_leftmost_of_nested :
    let k : BracedStage := fraction
    let before := "\\frac".toList
    let m := "\\frac".toList ++ braced ("\\frac".toList ++ ['{', 'a']) ++ braced ['b']
    let image := "\\frac".toList ++ ['{', 'a', '/', 'b']
    let after := '}' :: braced ['c']
    let t := before ++ m ++ after
    Has (IsMatch k.Matches) t ∧ Leftmost k.Matches t before m image after ∧
      k.rule.replaceAll t = before ++ image ++ k.rule.replaceAll after ∧
      ¬Has (IsMatch k.Matches) after ∧ k.rule.replaceAll after = after := by
  intro k before m image after t
  have hm : k.Matches m image :=
    ⟨_, _, by simp [IsContent], by simp [IsContent], rfl, rfl⟩
  have hhas : Has (IsMatch k.Matches) t := ⟨m, ⟨image, hm⟩, before, after, rfl⟩
  have hfirst : ∀ n < before.length, ¬"\\frac".toList ++ ['{'] <+: t.drop n := by decide +kernel
  have hleftmost : Leftmost k.Matches t before m image after := by
    refine ⟨rfl, hm, fun before' m' after' hsplit hm' => Nat.le_of_not_lt fun hlt => ?_⟩
    obtain ⟨_, a, b, -, -, rfl, -⟩ := hm'
    apply hfirst _ hlt
    rw [hsplit, List.append_assoc, List.drop_left]
    simp [braced]
  have hnone : ¬Has (IsMatch k.Matches) after := by
    rintro ⟨_, ⟨_, a, b, -, -, rfl, -⟩, hinfix⟩
    have hmem : '\\' ∈ after := hinfix.subset (by simp)
    revert hmem
    decide +kernel
  obtain ⟨hkept, -⟩ := stages_rewrite_leftmost k after
  obtain ⟨-, hwritten⟩ := stages_rewrite_leftmost k t
  obtain ⟨_, _, _, _, -, hunique, hrewritten⟩ := hwritten hhas
  obtain ⟨rfl, rfl, rfl, rfl⟩ := hunique _ _ _ _ hleftmost
  exact ⟨hhas, hleftmost, hrewritten, hnone, hkept hnone⟩

end BracedStage
end ChatMarkup.Latex
