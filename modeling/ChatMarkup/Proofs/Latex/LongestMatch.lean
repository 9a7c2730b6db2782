import ChatMarkup.Proofs.Latex.Forms
import ChatMarkup.Proofs.Text.Occurs
import Mathlib.Data.List.Sort

namespace ChatMarkup.Latex

variable {table : List (Text × Text)} {r : Rule} {t rest : Text}

/-- A piece of a formula: a command with its glyph, or a character that is kept. -/
inductive Piece where
  | symbol (entry : Text × Text)
  | other (c : Char)

namespace Piece

def source : Piece → Text
  | symbol entry => entry.1
  | other c => [c]

def image : Piece → Text
  | symbol entry => entry.2
  | other c => [c]

/-- Whether a piece may come first in `t`: no command of the table that stands there is longer than
it, and it is a command unless none stands there. -/
def IsLongest (table : List (Text × Text)) (t : Text) : Piece → Prop
  | symbol entry =>
    entry ∈ table ∧ ∀ other ∈ table, other.1 <+: t → other.1.length ≤ entry.1.length
  | other _ => ∀ entry ∈ table, ¬entry.1 <+: t

end Piece

/-- The pieces of a text from left to right, each the longest command where it stands. -/
inductive Segments (table : List (Text × Text)) : Text → List Piece → Prop
  | nil : Segments table [] []
  | cons {t rest : Text} {p : Piece} {pieces : List Piece} (first : p.IsLongest table t)
      (split : t = p.source ++ rest) (others : Segments table rest pieces) :
      Segments table t (p :: pieces)

/-- A table with one entry for each command, in which commands have a backslash at the front only. -/
structure IsCommandTable (table : List (Text × Text)) : Prop where
  distinct : (table.map Prod.fst).Nodup
  command : ∀ entry ∈ table, entry.1.head? = some '\\' ∧ '\\' ∉ entry.1.tail

theorem nodup_commands : (symbolTable.map Prod.fst).Nodup := by
  -- The commands are compared as numbers, which takes far fewer steps.
  have hcodes : ((symbolTable.map Prod.fst).map fun command =>
      command.foldl (fun code c => 128 * code + c.toNat) 0).Nodup := by decide +kernel
  exact hcodes.of_map _

theorem isCommandTable_symbolTable : IsCommandTable symbolTable where
  distinct := nodup_commands
  command := by decide +kernel

theorem IsCommandTable.ne_nil (h : IsCommandTable table) {entry : Text × Text}
    (hmem : entry ∈ table) : entry.1 ≠ [] := by
  intro hempty
  have hhead := (h.command entry hmem).1
  rw [hempty] at hhead
  cases hhead

theorem Piece.IsLongest.source_ne_nil (h : IsCommandTable table) {p : Piece}
    (hp : p.IsLongest table t) : p.source ≠ [] := by
  cases p with
  | symbol entry => exact h.ne_nil hp.1
  | other c => exact List.cons_ne_nil c []

theorem Piece.IsLongest.unique (h : IsCommandTable table) {p q : Piece} {rest' : Text}
    (hp : p.IsLongest table t) (hq : q.IsLongest table t) (hpt : t = p.source ++ rest)
    (hqt : t = q.source ++ rest') : p = q := by
  have hpfront : p.source <+: t := ⟨rest, hpt.symm⟩
  have hqfront : q.source <+: t := ⟨rest', hqt.symm⟩
  cases p with
  | symbol entry =>
    cases q with
    | symbol entry' =>
      have hlength : entry.1.length = entry'.1.length :=
        Nat.le_antisymm (hq.2 entry hp.1 hpfront) (hp.2 entry' hq.1 hqfront)
      have hcommand : entry.1 = entry'.1 := (List.append_inj (hpt.symm.trans hqt) hlength).1
      rw [List.inj_on_of_nodup_map h.distinct hp.1 hq.1 hcommand]
    | other c => exact absurd hpfront (hq entry hp.1)
  | other c =>
    cases q with
    | symbol entry' => exact absurd hqfront (hp entry' hq.1)
    | other c' =>
      have hheads : c :: rest = c' :: rest' := hpt.symm.trans hqt
      rw [(List.cons.inj hheads).1]

theorem Segments.unique (h : IsCommandTable table) {pieces others : List Piece}
    (hp : Segments table t pieces) (ho : Segments table t others) : pieces = others := by
  induction hp generalizing others with
  | nil =>
    cases ho with
    | nil => rfl
    | cons first split _ =>
      exact absurd (List.append_eq_nil_iff.mp split.symm).1 (first.source_ne_nil h)
  | cons first split tail ih =>
    cases ho with
    | nil => exact absurd (List.append_eq_nil_iff.mp split.symm).1 (first.source_ne_nil h)
    | cons first' split' tail' =>
      obtain rfl := first.unique h first' split split'
      obtain rfl := List.append_cancel_left (split.symm.trans split')
      rw [ih tail']

/-- A rule that writes the glyph of the longest command of a table. -/
structure Rule.TakesLongest (r : Rule) (table : List (Text × Text)) : Prop where
  found : ∀ {t image rest}, r.step t = some (image, rest) →
    ∃ entry, (Piece.symbol entry).IsLongest table t ∧ t = entry.1 ++ rest ∧ image = entry.2
  missed : ∀ {t}, r.step t = none → ∀ entry ∈ table, ¬entry.1 <+: t

theorem Rule.TakesLongest.exists_segments (h : r.TakesLongest table) (t : Text) :
    ∃ pieces, Segments table t pieces ∧ r.replaceAll t = pieces.flatMap Piece.image := by
  fun_induction Rule.replaceAll r t with
  | case1 => exact ⟨[], Segments.nil, rfl⟩
  | case2 c t image rest hstep ih =>
    obtain ⟨entry, hlongest, hsplit, rfl⟩ := h.found hstep
    obtain ⟨pieces, hpieces, hwritten⟩ := ih
    exact ⟨.symbol entry :: pieces, .cons hlongest hsplit hpieces, by rw [hwritten]; rfl⟩
  | case3 c t hstep ih =>
    obtain ⟨pieces, hpieces, hwritten⟩ := ih
    have hnone : (Piece.other c).IsLongest table (c :: t) := h.missed hstep
    exact ⟨.other c :: pieces, .cons hnone rfl hpieces, by rw [hwritten]; rfl⟩

theorem Rule.TakesLongest.step_eq_none (h : r.TakesLongest table)
    (hnone : ∀ entry ∈ table, ¬entry.1 <+: t) : r.step t = none := by
  cases hstep : r.step t with
  | none => rfl
  | some found =>
    obtain ⟨entry, hlongest, hsplit, -⟩ := h.found hstep
    exact absurd ⟨found.2, hsplit.symm⟩ (hnone entry hlongest.1)

theorem alphabetical_total (x y : Text) : alphabetical x y = true ∨ alphabetical y x = true := by
  induction x generalizing y with
  | nil => exact Or.inl rfl
  | cons a x ih =>
    cases y with
    | nil => exact Or.inr rfl
    | cons b y =>
      simp only [alphabetical, Bool.or_eq_true, Bool.and_eq_true, decide_eq_true_eq, beq_iff_eq]
      have hrest := ih y
      grind

theorem alphabetical_trans {x y z : Text} (hxy : alphabetical x y = true)
    (hyz : alphabetical y z = true) : alphabetical x z = true := by
  induction x generalizing y z with
  | nil => rfl
  | cons a x ih =>
    cases y with
    | nil => cases hxy
    | cons b y =>
      cases z with
      | nil => cases hyz
      | cons c z =>
        have hrest := ih (y := y) (z := z)
        simp only [alphabetical, Bool.or_eq_true, Bool.and_eq_true, decide_eq_true_eq,
          beq_iff_eq] at hxy hyz ⊢
        grind

theorem longerFirst_iff {a b : Text × Text} : longerFirst a b = true ↔
    Text.utf8Length b.1 < Text.utf8Length a.1 ∨
      Text.utf8Length a.1 = Text.utf8Length b.1 ∧ alphabetical a.1 b.1 = true := by
  unfold longerFirst
  cases hlength : compare (Text.utf8Length b.1) (Text.utf8Length a.1) with
  | lt =>
    rw [Nat.compare_eq_lt] at hlength
    exact iff_of_true rfl (Or.inl hlength)
  | eq =>
    rw [Nat.compare_eq_eq] at hlength
    simp [hlength]
  | gt =>
    rw [Nat.compare_eq_gt] at hlength
    refine iff_of_false Bool.false_ne_true ?_
    omega

theorem pairwise_byLength (table : List (Text × Text)) :
    (byLength table).Pairwise fun a b => Text.utf8Length b.1 ≤ Text.utf8Length a.1 := by
  have htrans : IsTrans (Text × Text) (longerFirst · · = true) := by
    refine ⟨fun a b c hab hbc => ?_⟩
    have halphabet := @alphabetical_trans a.1 b.1 c.1
    rw [longerFirst_iff] at hab hbc ⊢
    grind
  have htotal : Std.Total (α := Text × Text) (longerFirst · · = true) := by
    refine ⟨fun a b => ?_⟩
    have halphabet := alphabetical_total a.1 b.1
    rw [longerFirst_iff, longerFirst_iff]
    grind
  rw [byLength_eq_insertionSort]
  refine (List.pairwise_insertionSort (longerFirst · · = true) table).imp fun {a b} hab => ?_
  rw [longerFirst_iff] at hab
  omega

theorem length_le_of_utf8Length_le {a b : Text} (ha : a <+: t) (hb : b <+: t)
    (h : Text.utf8Length a ≤ Text.utf8Length b) : a.length ≤ b.length := by
  by_contra hlonger
  obtain ⟨tail, rfl⟩ := List.prefix_of_prefix_length_le hb ha (by omega)
  have htail : tail ≠ [] := by
    rintro rfl
    simp at hlonger
  have hpos := Text.utf8Length_pos_iff.mpr htail
  rw [Text.utf8Length_append] at h
  omega

theorem isLongest_of_find? {entry : Text × Text}
    (hsorted : table.Pairwise fun a b => Text.utf8Length b.1 ≤ Text.utf8Length a.1)
    (h : table.find? (·.1.isPrefixOf t) = some entry) :
    (Piece.symbol entry).IsLongest table t ∧ entry.1 <+: t := by
  obtain ⟨hfront, before, behind, rfl, hbefore⟩ := List.find?_eq_some_iff_append.mp h
  rw [List.isPrefixOf_iff_prefix] at hfront
  rw [List.pairwise_append, List.pairwise_cons] at hsorted
  refine ⟨⟨by simp, fun other hother hother' => ?_⟩, hfront⟩
  rw [List.mem_append, List.mem_cons] at hother
  obtain hother | rfl | hother := hother
  · simpa [List.isPrefixOf_iff_prefix.mpr hother'] using hbefore other hother
  · exact Nat.le_refl _
  · exact length_le_of_utf8Length_le hother' hfront (hsorted.2.1.1 other hother)

theorem takesLongest_searchRule (h : IsCommandTable table) :
    (searchRule table).TakesLongest table := by
  have hperm := perm_byLength table
  refine ⟨?_, ?_⟩
  · intro t image rest hstep
    obtain ⟨command, hfound, hsplit⟩ := find?_of_step_firstMatch hstep
    obtain ⟨⟨hmem, hlongest⟩, -⟩ := isLongest_of_find? (pairwise_byLength table) hfound
    refine ⟨(command, image), ⟨hperm.mem_iff.mp hmem, fun other hother => ?_⟩, hsplit, rfl⟩
    exact hlongest other (hperm.mem_iff.mpr hother)
  · intro t hstep entry hmem hfront
    refine absurd hstep (step_firstMatch_ne_none ?_ (hperm.mem_iff.mpr hmem) hfront)
    intro other hother
    exact (h.command other (hperm.mem_iff.mp hother)).1

theorem takesLongest_symbolRule : symbolRule.TakesLongest symbolTable :=
  takesLongest_searchRule isCommandTable_symbolTable

theorem IsCommandTable.of_perm {table' : List (Text × Text)} (h : IsCommandTable table)
    (hperm : table'.Perm table) : IsCommandTable table' where
  distinct := ((hperm.map Prod.fst).nodup_iff).mpr h.distinct
  command entry hmem := h.command entry (hperm.mem_iff.mp hmem)

theorem Segments.of_perm {table' : List (Text × Text)} {pieces : List Piece}
    (h : Segments table t pieces) (hperm : table'.Perm table) : Segments table' t pieces := by
  induction h with
  | nil => exact .nil
  | @cons t rest p pieces first split tail ih =>
    refine .cons ?_ split ih
    cases p with
    | symbol entry =>
      exact ⟨hperm.mem_iff.mpr first.1, fun other hother => first.2 other (hperm.mem_iff.mp hother)⟩
    | other c => exact fun entry hmem => first entry (hperm.mem_iff.mp hmem)

theorem Rule.TakesLongest.replaceAll_eq {table' : List (Text × Text)} {r' : Rule}
    (h : IsCommandTable table) (hr : r.TakesLongest table) (hr' : r'.TakesLongest table')
    (hperm : table'.Perm table) (t : Text) : r'.replaceAll t = r.replaceAll t := by
  obtain ⟨pieces, hpieces, hwritten⟩ := hr.exists_segments t
  obtain ⟨others, hothers, hwritten'⟩ := hr'.exists_segments t
  rw [hwritten', hothers.unique (h.of_perm hperm) (hpieces.of_perm hperm), hwritten]

/-- A command that stands at the front of a text does not reach into what starts with a backslash
after it. -/
theorem prefix_of_prefix_append {command s : Text} (hcommand : '\\' ∉ command.tail) (ht : t ≠ [])
    (hs : ∀ c ∈ s.head?, c = '\\') (h : command <+: t ++ s) : command <+: t := by
  by_contra hlonger
  have hlength : t.length ≤ command.length := by
    by_contra hshort
    exact hlonger (List.prefix_of_prefix_length_le h (List.prefix_append t s) (by omega))
  obtain ⟨tail, rfl⟩ := List.prefix_of_prefix_length_le (List.prefix_append t s) h hlength
  obtain ⟨c, t, rfl⟩ := List.exists_cons_of_ne_nil ht
  -- What is beyond `t` starts with the backslash of `s`, behind the first character of the command.
  cases tail with
  | nil => simp at hlonger
  | cons d tail =>
    obtain ⟨left, hleft⟩ := (List.prefix_append_right_inj _).mp h
    have hd : d = '\\' := hs d (by rw [← hleft]; rfl)
    simp [hd] at hcommand

theorem Segments.append (h : IsCommandTable table) {s : Text} {pieces others : List Piece}
    (hp : Segments table t pieces) (ho : Segments table s others)
    (hs : ∀ c ∈ s.head?, c = '\\') : Segments table (t ++ s) (pieces ++ others) := by
  induction hp with
  | nil => exact ho
  | @cons t rest p pieces first split tail ih =>
    have ht : t ≠ [] := by
      rw [split]
      exact List.append_ne_nil_of_left_ne_nil (first.source_ne_nil h) rest
    have hback : ∀ entry ∈ table, entry.1 <+: t ++ s → entry.1 <+: t := fun entry hmem =>
      prefix_of_prefix_append (h.command entry hmem).2 ht hs
    refine .cons ?_ (by rw [split, List.append_assoc]) ih
    cases p with
    | symbol entry => exact ⟨first.1, fun x hx hfront => first.2 x hx (hback x hx hfront)⟩
    | other c => exact fun x hx hfront => first x hx (hback x hx hfront)

/-- The commands that take groups in braces; they are rewritten after the symbols. -/
def bracedCommands : List Text := ["\\frac".toList, "\\sqrt".toList]

theorem not_prefix_bracedCommands :
    ∀ key ∈ bracedCommands, (key.head? = some '\\' ∧ '\\' ∉ key.tail) ∧
      ∀ entry ∈ symbolTable, ¬entry.1 <+: key ∧ ¬key <+: entry.1 := by
  decide +kernel

theorem replaceAll_symbolRule_append {t s : Text} (hs : ∀ c ∈ s.head?, c = '\\') :
    symbolRule.replaceAll (t ++ s) = symbolRule.replaceAll t ++ symbolRule.replaceAll s := by
  obtain ⟨pieces, hp, ht⟩ := takesLongest_symbolRule.exists_segments t
  obtain ⟨others, ho, hs'⟩ := takesLongest_symbolRule.exists_segments s
  obtain ⟨all, ha, hall⟩ := takesLongest_symbolRule.exists_segments (t ++ s)
  have hboth := hp.append isCommandTable_symbolTable ho hs
  rw [hall, ha.unique isCommandTable_symbolTable hboth, List.flatMap_append, ht, hs']

theorem replaceAll_symbolRule_plain {a : Text} (ha : '\\' ∉ a) (t : Text) :
    symbolRule.replaceAll (a ++ t) = a ++ symbolRule.replaceAll t := by
  induction a with
  | nil => rfl
  | cons c a ih =>
    rw [List.mem_cons, not_or] at ha
    have hstep : symbolRule.step (c :: (a ++ t)) = none := by
      refine takesLongest_symbolRule.step_eq_none fun entry hmem hfront => ?_
      obtain ⟨hhead, -⟩ := isCommandTable_symbolTable.command entry hmem
      obtain ⟨name, hname⟩ := List.head?_eq_some_iff.mp hhead
      rw [hname, List.cons_prefix_cons] at hfront
      exact ha.1 hfront.1
    rw [List.cons_append, Rule.replaceAll_cons_of_none hstep, ih ha.2, List.cons_append]

theorem replaceAll_symbolRule_braced {key : Text} (hkey : key ∈ bracedCommands) (s : Text) :
    symbolRule.replaceAll (key ++ s) = key ++ symbolRule.replaceAll s := by
  obtain ⟨⟨hhead, htail⟩, hfree⟩ := not_prefix_bracedCommands key hkey
  have hfront : ∀ entry ∈ symbolTable, ¬entry.1 <+: key ++ s := by
    intro entry hmem hfront
    obtain hshort | hlong := List.prefix_or_prefix_of_prefix hfront (List.prefix_append key s)
    · exact (hfree entry hmem).1 hshort
    · exact (hfree entry hmem).2 hlong
  obtain ⟨name, rfl⟩ := List.head?_eq_some_iff.mp hhead
  have hstep : symbolRule.step ('\\' :: (name ++ s)) = none :=
    takesLongest_symbolRule.step_eq_none hfront
  have hname : symbolRule.replaceAll (name ++ s) = name ++ symbolRule.replaceAll s :=
    replaceAll_symbolRule_plain htail s
  rw [List.cons_append, Rule.replaceAll_cons_of_none hstep, hname, List.cons_append]

/-- The symbols of a text are those of its one division into longest commands and other characters,
whatever the order of the table. Before a backslash the text may be cut, and the commands of
fractions and roots are kept wherever they stand. -/
theorem symbols_are_longest_matches (t : Text) :
    (∃ pieces, symbolRule.replaceAll t = pieces.flatMap Piece.image ∧
      ∀ others, Segments symbolTable t others ↔ others = pieces) ∧
    (∀ table : List (Text × Text), table.Perm symbolTable →
      (searchRule table).replaceAll t = symbolRule.replaceAll t) ∧
    (∀ s : Text, (∀ c ∈ s.head?, c = '\\') →
      symbolRule.replaceAll (t ++ s) = symbolRule.replaceAll t ++ symbolRule.replaceAll s) ∧
    ∀ key ∈ bracedCommands, ∀ s, symbolRule.replaceAll (t ++ key ++ s) =
      symbolRule.replaceAll t ++ key ++ symbolRule.replaceAll s := by
  obtain ⟨pieces, hpieces, hwritten⟩ := takesLongest_symbolRule.exists_segments t
  refine ⟨⟨pieces, hwritten, fun others => ⟨?_, ?_⟩⟩, ?_, fun s => replaceAll_symbolRule_append, ?_⟩
  · exact fun hothers => hothers.unique isCommandTable_symbolTable hpieces
  · rintro rfl
    exact hpieces
  · intro table hperm
    have hsearch := takesLongest_searchRule (isCommandTable_symbolTable.of_perm hperm)
    exact takesLongest_symbolRule.replaceAll_eq isCommandTable_symbolTable hsearch hperm t
  · intro key hkey s
    obtain ⟨⟨hhead, -⟩, -⟩ := not_prefix_bracedCommands key hkey
    have hcut : ∀ c ∈ (key ++ s).head?, c = '\\' := by
      rw [List.head?_append, hhead]
      simp
    rw [List.append_assoc, replaceAll_symbolRule_append hcut, replaceAll_symbolRule_braced hkey,
      List.append_assoc]

/-- Commands that go on from one another, one of them cut short, with the table the other way
round. -/
theorem symbols_are_longest_matches_of_reversed :
    let t := "\\in\\int\\inft".toList
    let s := "\\infty".toList
    let key := "\\sqrt".toList
    (symbolTable.reverse.Perm symbolTable ∧ (∀ c ∈ s.head?, c = '\\') ∧ key ∈ bracedCommands) ∧
      (searchRule symbolTable.reverse).replaceAll t = "∈∫∈ft".toList ∧
      symbolRule.replaceAll (t ++ s) = "∈∫∈ft∞".toList ∧
      symbolRule.replaceAll (t ++ key ++ s) = "∈∫∈ft\\sqrt∞".toList := by
  intro t s key
  have hperm : symbolTable.reverse.Perm symbolTable := List.reverse_perm symbolTable
  have hhead : s.head? = some '\\' := by decide +kernel
  have hcut : ∀ c ∈ s.head?, c = '\\' := by simp [hhead]
  have hkey : key ∈ bracedCommands := by decide +kernel
  have ht : symbolRule.replaceAll t = "∈∫∈ft".toList := by decide +kernel
  have hs : symbolRule.replaceAll s = "∞".toList := by decide +kernel
  obtain ⟨-, horder, happend, hbraced⟩ := symbols_are_longest_matches t
  refine ⟨⟨hperm, hcut, hkey⟩, ?_, ?_, ?_⟩
  · rw [horder _ hperm, ht]
  · rw [happend s hcut, ht, hs]
    decide +kernel
  · rw [hbraced key hkey s, ht, hs]
    decide +kernel

end ChatMarkup.Latex
