import ChatMarkup.Latex.Normalize
import ChatMarkup.Proofs.Text.Occurs
import Mathlib.Data.List.Sort
import Mathlib.Tactic.IntervalCases

namespace ChatMarkup.Latex

variable {t image rest : Text}

def braced (x : Text) : Text := '{' :: (x ++ ['}'])

/-- What may stand in braces: something, without a closing brace. -/
def IsContent (x : Text) : Prop := x ≠ [] ∧ '}' ∉ x

/-- A command of the table. -/
def IsSymbol (m : Text) : Prop := ∃ s ∈ symbols, m = s.command.toList

def IsFraction (m : Text) : Prop :=
  ∃ a b, IsContent a ∧ IsContent b ∧ m = ['\\', 'f', 'r', 'a', 'c'] ++ braced a ++ braced b

def IsRoot (m : Text) : Prop := ∃ x, IsContent x ∧ m = ['\\', 's', 'q', 'r', 't'] ++ braced x

def IsSuperscript (m : Text) : Prop := ∃ d : Char, d.isDigit = true ∧ m = '^' :: braced [d]

def IsSubscript (m : Text) : Prop := ∃ x, IsContent x ∧ m = '_' :: braced x

theorem group?_iff {content : Text} :
    group? t = some (content, rest) ↔ IsContent content ∧ t = braced content ++ rest := by
  rw [group?_eq_some_iff, IsContent, and_assoc]
  simp [braced]

theorem step_fractionRule_iff :
    fractionRule.step t = some (image, rest) ↔ ∃ a b, IsContent a ∧ IsContent b ∧
      t = ['\\', 'f', 'r', 'a', 'c'] ++ braced a ++ braced b ++ rest ∧ image = a ++ '/' :: b := by
  simp only [fractionRule, bind, Option.bind_eq_some_iff, pure, Option.some.injEq, Prod.mk.injEq,
    Prod.exists, Text.dropFront?_eq_some_iff, group?_iff]
  constructor
  · rintro ⟨t1, ht, a, t2, ⟨ha, h1⟩, b, t3, ⟨hb, h2⟩, rfl, rfl⟩
    exact ⟨a, b, ha, hb, by simp [ht, h1, h2], rfl⟩
  · rintro ⟨a, b, ha, hb, ht, rfl⟩
    exact ⟨braced a ++ (braced b ++ rest), by simpa using ht, a, _, ⟨ha, rfl⟩, b, rest, ⟨hb, rfl⟩,
      rfl, rfl⟩

theorem step_rootRule_iff :
    rootRule.step t = some (image, rest) ↔ ∃ x, IsContent x ∧
      t = ['\\', 's', 'q', 'r', 't'] ++ braced x ++ rest ∧ image = '√' :: x := by
  simp only [rootRule, bind, Option.bind_eq_some_iff, pure, Option.some.injEq, Prod.mk.injEq,
    Prod.exists, Text.dropFront?_eq_some_iff, group?_iff]
  constructor
  · rintro ⟨t1, ht, x, t2, ⟨hx, h1⟩, rfl, rfl⟩
    exact ⟨x, hx, by simp [ht, h1], rfl⟩
  · rintro ⟨x, hx, ht, rfl⟩
    exact ⟨braced x ++ rest, by simpa using ht, x, rest, ⟨hx, rfl⟩, rfl, rfl⟩

theorem step_subscriptRule_iff :
    subscriptRule.step t = some (image, rest) ↔ ∃ x, IsContent x ∧
      t = '_' :: braced x ++ rest ∧ image = (subscript? x).getD ('_' :: x) := by
  simp only [subscriptRule, bind, Option.bind_eq_some_iff, pure, Option.some.injEq, Prod.mk.injEq,
    Prod.exists, Text.dropFront?_eq_some_iff, group?_iff]
  constructor
  · rintro ⟨t1, ht, x, t2, ⟨hx, h1⟩, rfl, rfl⟩
    exact ⟨x, hx, by simp [ht, h1], rfl⟩
  · rintro ⟨x, hx, ht, rfl⟩
    exact ⟨braced x ++ rest, by simpa using ht, x, rest, ⟨hx, rfl⟩, rfl, rfl⟩

theorem superscript?_singleton {d : Char} (h : superscript? [d] = some image) :
    d.isDigit = true ∧ image.length = 1 := by
  unfold superscript? at h
  split at h
  case h_11 => cases h
  all_goals
    rename_i heq
    cases heq
    cases h
    exact ⟨by decide, rfl⟩

theorem exists_superscript? {d : Char} (h : d.isDigit = true) :
    ∃ image, superscript? [d] = some image := by
  have hrange : 48 ≤ d.toNat ∧ d.toNat ≤ 57 := by
    simp only [Char.isDigit, ge_iff_le, Bool.and_eq_true, decide_eq_true_eq] at h
    exact h
  obtain ⟨hlow, hhigh⟩ := hrange
  rw [← Char.ofNat_toNat d]
  interval_cases d.toNat
  all_goals exact ⟨_, rfl⟩

theorem step_superscriptRule_iff :
    superscriptRule.step t = some (image, rest) ↔
      ∃ d, superscript? [d] = some image ∧ t = '^' :: braced [d] ++ rest := by
  change superscriptAt? t = _ ↔ _
  constructor
  · intro h
    unfold superscriptAt? at h
    split at h
    · rename_i d rest'
      simp only [Option.map_eq_some_iff, Prod.mk.injEq] at h
      obtain ⟨image', himage, rfl, rfl⟩ := h
      exact ⟨d, himage, rfl⟩
    · cases h
  · rintro ⟨d, himage, rfl⟩
    change (superscript? [d]).map _ = _
    rw [himage]
    rfl

theorem length_subscript?_le {x : Text} (hx : IsContent x) :
    ((subscript? x).getD ('_' :: x)).length ≤ x.length + 1 := by
  have hpos : 0 < x.length := List.length_pos_iff.mpr hx.1
  unfold subscript?
  split
  case h_16 => exact Nat.le_refl _
  all_goals
    change 1 ≤ _
    omega

theorem symbolTable_shrinks :
    ∀ entry ∈ symbolTable, entry.1.head? = some '\\' ∧ entry.2.length < entry.1.length := by
  decide +kernel

theorem mem_symbolTable_iff {m : Text} : (∃ entry ∈ symbolTable, entry.1 = m) ↔ IsSymbol m := by
  simp only [symbolTable, List.mem_map, IsSymbol]
  constructor
  · rintro ⟨entry, ⟨s, hs, rfl⟩, rfl⟩
    exact ⟨s, hs, rfl⟩
  · rintro ⟨s, hs, rfl⟩
    exact ⟨_, ⟨s, hs, rfl⟩, rfl⟩

theorem byLength_eq_insertionSort (table : List (Text × Text)) :
    byLength table = table.insertionSort fun a b => longerFirst a b = true := by
  have hinsert : ∀ a, insertByLength a = List.orderedInsert (longerFirst · · = true) a := by
    intro a
    funext table
    induction table with
    | nil => rfl
    | cons b table ih =>
      rw [insertByLength, List.orderedInsert_cons, ih]
      cases longerFirst a b <;> rfl
  rw [byLength, List.insertionSort, funext hinsert]

theorem perm_byLength (table : List (Text × Text)) : (byLength table).Perm table := by
  rw [byLength_eq_insertionSort]
  exact List.perm_insertionSort _ table

theorem find?_of_step_firstMatch {table : List (Text × Text)}
    (h : (firstMatch table).step t = some (image, rest)) :
    ∃ command, table.find? (·.1.isPrefixOf t) = some (command, image) ∧ t = command ++ rest := by
  dsimp only [firstMatch] at h
  split_ifs at h with hhead
  split at h
  · rename_i entry hentry
    split_ifs at h
    cases h
    have hfront := List.find?_some hentry
    obtain ⟨tail, rfl⟩ := List.isPrefixOf_iff_prefix.mp hfront
    exact ⟨entry.1, hentry, by rw [List.drop_left]⟩
  · cases h

theorem step_firstMatch_ne_none {table : List (Text × Text)}
    (hcommand : ∀ entry ∈ table, entry.1.head? = some '\\') {entry : Text × Text}
    (hmem : entry ∈ table) (hfront : entry.1 <+: t) : (firstMatch table).step t ≠ none := by
  have hhead : t.head? = some '\\' := by
    obtain ⟨tail, rfl⟩ := hfront
    rw [List.head?_append, hcommand entry hmem]
    rfl
  dsimp only [firstMatch]
  rw [if_pos hhead]
  split
  · rename_i found hfound
    have hne : found.1 ≠ [] := by
      intro hempty
      have hfoundHead := hcommand found (List.mem_of_find?_eq_some hfound)
      rw [hempty] at hfoundHead
      cases hfoundHead
    rw [if_neg hne]
    exact Option.some_ne_none _
  · rename_i hnone
    have hmissed := List.find?_eq_none.mp hnone entry hmem
    exact absurd (List.isPrefixOf_iff_prefix.mpr hfront) hmissed

/-- Whether one of some forms stands in a text. -/
def Has (Form : Text → Prop) (t : Text) : Prop := ∃ m, Form m ∧ m <:+: t

/-- A function that keeps the texts without certain forms and makes all others shorter. -/
def Contracts (f : Text → Text) (Form : Text → Prop) : Prop :=
  ∀ t, (f t = t ∧ ¬Has Form t) ∨ ((f t).length < t.length ∧ Has Form t)

/-- A stage that rewrites the forms of one kind: it matches where one of them stands, and what it
writes for it is shorter. -/
structure Rule.Rewrites (r : Rule) (Form : Text → Prop) : Prop where
  found : ∀ {t image rest}, r.step t = some (image, rest) →
    ∃ m, Form m ∧ t = m ++ rest ∧ image.length < m.length
  finds : ∀ {m}, Form m → ∀ rest, r.step (m ++ rest) ≠ none

theorem Rule.Rewrites.contracts {r : Rule} {Form : Text → Prop} (h : r.Rewrites Form) :
    Contracts r.replaceAll Form := by
  intro t
  fun_induction Rule.replaceAll r t with
  | case1 =>
    refine Or.inl ⟨rfl, ?_⟩
    rintro ⟨m, hm, hinfix⟩
    obtain rfl := List.infix_nil.mp hinfix
    -- A form is longer than what is written for it, so it is not empty.
    obtain ⟨found, hfound⟩ := Option.ne_none_iff_exists'.mp (h.finds hm [])
    obtain ⟨m, -, hm, hlength⟩ := h.found hfound
    rw [(List.append_eq_nil_iff.mp hm.symm).1] at hlength
    exact absurd hlength (Nat.not_lt_zero _)
  | case2 c t image rest hstep ih =>
    obtain ⟨m, hm, ht, hlength⟩ := h.found hstep
    have hrest : (r.replaceAll rest).length ≤ rest.length := by
      obtain ⟨hsame, -⟩ | ⟨hshorter, -⟩ := ih
      · rw [hsame]
      · exact Nat.le_of_lt hshorter
    refine Or.inr ⟨?_, m, hm, ht ▸ (List.prefix_append m rest).isInfix⟩
    rw [ht, List.length_append, List.length_append]
    omega
  | case3 c t hstep ih =>
    have hfront : ∀ m, Form m → ¬m <+: c :: t := by
      rintro m hm ⟨rest, hrest⟩
      exact h.finds hm rest (hrest ▸ hstep)
    obtain ⟨hsame, hnone⟩ | ⟨hshorter, m, hm, hinfix⟩ := ih
    · refine Or.inl ⟨by rw [hsame], ?_⟩
      rintro ⟨m, hm, hinfix⟩
      obtain hstart | htail := List.infix_cons_iff.mp hinfix
      · exact hfront m hm hstart
      · exact hnone ⟨m, hm, htail⟩
    · exact Or.inr ⟨Nat.succ_lt_succ hshorter, m, hm, List.infix_cons hinfix⟩

theorem rewrites_symbolRule : symbolRule.Rewrites IsSymbol where
  found h := by
    obtain ⟨command, hfound, ht⟩ := find?_of_step_firstMatch h
    have hmem := (perm_byLength symbolTable).mem_iff.mp (List.mem_of_find?_eq_some hfound)
    exact ⟨command, mem_symbolTable_iff.mp ⟨_, hmem, rfl⟩, ht, (symbolTable_shrinks _ hmem).2⟩
  finds {m} hm rest := by
    obtain ⟨entry, hmem, rfl⟩ := mem_symbolTable_iff.mpr hm
    have hperm := perm_byLength symbolTable
    refine step_firstMatch_ne_none ?_ (hperm.mem_iff.mpr hmem) (List.prefix_append _ _)
    intro entry hentry
    exact (symbolTable_shrinks entry (hperm.mem_iff.mp hentry)).1

theorem rewrites_fractionRule : fractionRule.Rewrites IsFraction where
  found h := by
    obtain ⟨a, b, ha, hb, ht, rfl⟩ := step_fractionRule_iff.mp h
    refine ⟨_, ⟨a, b, ha, hb, rfl⟩, ht, ?_⟩
    simp only [braced, List.length_append, List.length_cons]
    omega
  finds {m} hm rest := by
    obtain ⟨a, b, ha, hb, rfl⟩ := hm
    rw [step_fractionRule_iff.mpr ⟨a, b, ha, hb, rfl, rfl⟩]
    exact Option.some_ne_none _

theorem rewrites_rootRule : rootRule.Rewrites IsRoot where
  found h := by
    obtain ⟨x, hx, ht, rfl⟩ := step_rootRule_iff.mp h
    refine ⟨_, ⟨x, hx, rfl⟩, ht, ?_⟩
    simp only [braced, List.length_append, List.length_cons]
    omega
  finds {m} hm rest := by
    obtain ⟨x, hx, rfl⟩ := hm
    rw [step_rootRule_iff.mpr ⟨x, hx, rfl, rfl⟩]
    exact Option.some_ne_none _

theorem rewrites_superscriptRule : superscriptRule.Rewrites IsSuperscript where
  found h := by
    obtain ⟨d, himage, ht⟩ := step_superscriptRule_iff.mp h
    obtain ⟨hd, hlength⟩ := superscript?_singleton himage
    refine ⟨_, ⟨d, hd, rfl⟩, ht, ?_⟩
    rw [hlength]
    exact (by decide : 1 < 4)
  finds {m} hm rest := by
    obtain ⟨d, hd, rfl⟩ := hm
    obtain ⟨image, himage⟩ := exists_superscript? hd
    rw [step_superscriptRule_iff.mpr ⟨d, himage, rfl⟩]
    exact Option.some_ne_none _

theorem rewrites_subscriptRule : subscriptRule.Rewrites IsSubscript where
  found h := by
    obtain ⟨x, hx, ht, rfl⟩ := step_subscriptRule_iff.mp h
    refine ⟨_, ⟨x, hx, rfl⟩, ht, ?_⟩
    have hlength := length_subscript?_le hx
    simp only [braced, List.length_append, List.length_cons, List.length_nil]
    omega
  finds {m} hm rest := by
    obtain ⟨x, hx, rfl⟩ := hm
    rw [step_subscriptRule_iff.mpr ⟨x, hx, rfl, rfl⟩]
    exact Option.some_ne_none _

end ChatMarkup.Latex
