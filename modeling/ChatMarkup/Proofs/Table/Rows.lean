import ChatMarkup.Proofs.Document.Siblings
import ChatMarkup.Proofs.Table.LineBreaks
import Mathlib.Order.Bounds.Basic

namespace ChatMarkup
namespace Document

variable {d : Document} {table id c e x row : d.Id} {part : Node} {p : d.Id → Bool}

/-- Whether a node is a row directly below a table. -/
def isBareRow (d : Document) (table row : d.Id) : Bool :=
  d.parent? row == some table && d.node row == .tableRow

/-- Whether a node is a row of a section of this kind in a table. -/
def isSectionRow (d : Document) (table : d.Id) (part : Node) (row : d.Id) : Bool :=
  d.node row == .tableRow &&
    (d.parent? row).any fun inner => d.node inner == part && d.parent? inner == some table

/-- Whether a node is a row of a body of a table or stands directly below the table. -/
def isBodyRow (d : Document) (table row : d.Id) : Bool :=
  d.isBareRow table row || d.isSectionRow table .tableBody row

theorem nodup_preorderFrom (id : d.Id) : (d.preorderFrom id).Nodup := by
  induction id using childInduction with
  | step id ih =>
    rw [preorderFrom_eq, List.nodup_cons]
    constructor
    · intro h
      obtain ⟨c, hc, hx⟩ := List.mem_flatMap.mp h
      exact not_mem_preorderFrom_of_mem_children hc hx
    · refine List.nodup_flatMap.mpr ⟨ih, (d.nodup_children id).imp_of_mem ?_⟩
      intro a b ha hb hne x hxa hxb
      exact hne (eq_of_mem_preorderFrom ha hb hxa hxb)

theorem parent?_eq_iff_of_mem_preorderFrom (hc : c ∈ d.children id) (hx : x ∈ d.preorderFrom c) :
    d.parent? x = some id ↔ x = c := by
  constructor
  · intro h
    have hchild : x ∈ d.children id := (d.mem_children_iff).mpr h
    exact eq_of_mem_preorderFrom hchild hc (mem_preorderFrom_self x) hx
  · rintro rfl
    exact (d.mem_children_iff).mp hc

theorem filter_preorderFrom_self (hc : c ∈ d.children id) :
    ((d.preorderFrom c).filter fun x => d.parent? x == some id && p x) = [c].filter p := by
  have hnodup := nodup_preorderFrom c
  have heq : ∀ x ∈ d.preorderFrom c, (d.parent? x == some id && p x) = (x == c && p x) := by
    intro x hx
    rw [Bool.eq_iff_iff]
    simp [parent?_eq_iff_of_mem_preorderFrom hc hx]
  rw [List.filter_congr heq]
  rw [preorderFrom_eq] at hnodup ⊢
  have htail : ((d.children c).flatMap d.preorderFrom).filter (fun x => x == c && p x) = [] := by
    rw [List.filter_eq_nil_iff]
    intro x hx
    have hne : x ≠ c := by
      rintro rfl
      exact (List.nodup_cons.mp hnodup).1 hx
    simp [hne]
  rw [List.filter_cons, htail]
  simp [List.filter_cons]

theorem filter_preorderFrom_children (p : d.Id → Bool) (id : d.Id) :
    ((d.preorderFrom id).filter fun x => d.parent? x == some id && p x) =
      (d.children id).filter p := by
  have hself : d.parent? id ≠ some id := fun h => Nat.lt_irrefl _ (d.val_lt_of_parent? h)
  rw [preorderFrom_eq, List.filter_cons_of_neg (by simp [hself]), List.filter_flatMap,
    List.flatMap_congr fun c hc => filter_preorderFrom_self (p := p) hc, ← List.filter_flatMap,
    List.flatMap_singleton']

theorem isSectionRow_iff_of_mem_preorderFrom (hc : c ∈ d.children table)
    (hx : x ∈ d.preorderFrom c) :
    d.isSectionRow table part x =
      (d.parent? x == some c && (d.node c == part && d.node x == .tableRow)) := by
  rw [Bool.eq_iff_iff]
  simp only [isSectionRow, Bool.and_eq_true, beq_iff_eq, Option.any_eq_true]
  constructor
  · rintro ⟨hrow, inner, hinner, hpart, htable⟩
    have hchild : inner ∈ d.children table := (d.mem_children_iff).mpr htable
    have hbelow := mem_preorderFrom_of_child ((d.mem_children_iff).mpr hinner)
      (mem_preorderFrom_self x)
    obtain rfl := eq_of_mem_preorderFrom hchild hc hbelow hx
    exact ⟨hinner, hpart, hrow⟩
  · rintro ⟨hinner, hpart, hrow⟩
    exact ⟨hrow, c, hinner, hpart, (d.mem_children_iff).mp hc⟩

theorem filter_isSectionRow (hc : c ∈ d.children table) :
    (d.preorderFrom c).filter (d.isSectionRow table part) =
      if d.node c = part then d.rowsOf c else [] := by
  rw [List.filter_congr fun x hx => isSectionRow_iff_of_mem_preorderFrom hc hx,
    filter_preorderFrom_children]
  split_ifs with h
  · simp [h, rowsOf, Bool.beq_eq_decide_eq]
  · simp [h]

theorem filter_isBareRow (hc : c ∈ d.children table) :
    (d.preorderFrom c).filter (d.isBareRow table) = if d.node c = .tableRow then [c] else [] := by
  have hself := filter_preorderFrom_self (p := fun x => d.node x == .tableRow) hc
  rw [show d.isBareRow table = fun x => d.parent? x == some table && d.node x == .tableRow from rfl,
    hself]
  split_ifs with h <;> simp [h]

theorem filter_isBodyRow (hc : c ∈ d.children table) :
    (d.preorderFrom c).filter (d.isBodyRow table) =
      match d.node c with
      | .tableBody => d.rowsOf c
      | .tableRow => [c]
      | _ => [] := by
  have hbare := filter_isBareRow hc
  have hpart : (d.preorderFrom c).filter (d.isSectionRow table .tableBody) =
      if d.node c = .tableBody then d.rowsOf c else [] := filter_isSectionRow hc
  -- A child that is no row is no bare row, and one that is no body has no body rows.
  by_cases hrow : d.node c = .tableRow
  · have hne : d.node c ≠ .tableBody := by simp [hrow]
    rw [if_pos hrow] at hbare
    rw [if_neg hne, List.filter_eq_nil_iff] at hpart
    rw [hrow, ← hbare]
    exact List.filter_congr fun x hx => by simp [isBodyRow, hpart x hx]
  · rw [if_neg hrow, List.filter_eq_nil_iff] at hbare
    have heq : (d.preorderFrom c).filter (d.isBodyRow table) =
        (d.preorderFrom c).filter (d.isSectionRow table .tableBody) :=
      List.filter_congr fun x hx => by simp [isBodyRow, hbare x hx]
    rw [heq, hpart]
    cases hn : d.node c with
    | tableRow => exact absurd hn hrow
    | _ => simp

theorem filter_preorderFrom_table {q : d.Id → Bool} (hq : q table = false) :
    (d.preorderFrom table).filter q =
      (d.children table).flatMap fun c => (d.preorderFrom c).filter q := by
  rw [preorderFrom_eq, List.filter_cons_of_neg (by simp [hq]), List.filter_flatMap]

theorem isSectionRow_self (part : Node) (table : d.Id) :
    d.isSectionRow table part table = false := by
  rw [Bool.eq_false_iff]
  intro h
  simp only [isSectionRow, Bool.and_eq_true, beq_iff_eq, Option.any_eq_true] at h
  obtain ⟨-, inner, hinner, -, htable⟩ := h
  have hlt := d.val_lt_of_parent? hinner
  have hlt' := d.val_lt_of_parent? htable
  omega

theorem isBodyRow_self (table : d.Id) : d.isBodyRow table table = false := by
  have hparent : d.parent? table ≠ some table := fun h => Nat.lt_irrefl _ (d.val_lt_of_parent? h)
  simp [isBodyRow, isBareRow, isSectionRow_self, hparent]

theorem sectionRows_eq (table : d.Id) (part : Node) :
    d.sectionRows table part = (d.preorderFrom table).filter (d.isSectionRow table part) := by
  rw [filter_preorderFrom_table (isSectionRow_self part table),
    List.flatMap_congr fun c hc => filter_isSectionRow hc, sectionRows]
  induction d.children table with
  | nil => rfl
  | cons c l ih =>
    rw [List.filter_cons, List.flatMap_cons, ← ih]
    split_ifs <;> simp_all

theorem bodyRows_eq (table : d.Id) :
    d.bodyRows table = (d.preorderFrom table).filter (d.isBodyRow table) := by
  rw [filter_preorderFrom_table (isBodyRow_self table)]
  exact (List.flatMap_congr fun c hc => filter_isBodyRow hc).symm

/-- The rows of a table in document order, sorted by the sections that they stand in. -/
theorem collectRows_eq (table : d.Id) :
    (d.collectRows table).1 =
      (d.preorderFrom table).filter (d.isSectionRow table .tableHeader) ++
        (d.preorderFrom table).filter (d.isBodyRow table) ++
          (d.preorderFrom table).filter (d.isSectionRow table .tableFooter) := by
  rw [collectRows, ← sectionRows_eq, ← bodyRows_eq, ← sectionRows_eq]

theorem part_eq_of_isSectionRow {other : Node} (h : d.isSectionRow table part row = true)
    (h' : d.isSectionRow table other row = true) : part = other := by
  simp only [isSectionRow, Bool.and_eq_true, beq_iff_eq, Option.any_eq_true] at h h'
  obtain ⟨-, inner, hinner, hpart, -⟩ := h
  obtain ⟨-, inner', hinner', hother, -⟩ := h'
  rw [hinner, Option.some.injEq] at hinner'
  rw [← hpart, ← hother, hinner']

theorem isBareRow_eq_false (h : d.isSectionRow table part row = true) :
    d.isBareRow table row = false := by
  rw [Bool.eq_false_iff]
  intro h'
  simp only [isSectionRow, isBareRow, Bool.and_eq_true, beq_iff_eq, Option.any_eq_true] at h h'
  obtain ⟨-, inner, hinner, -, htable⟩ := h
  rw [hinner, Option.some.injEq] at h'
  rw [h'.1] at htable
  exact Nat.lt_irrefl _ (d.val_lt_of_parent? htable)

theorem nodup_collectRows (table : d.Id) : (d.collectRows table).1.Nodup := by
  have hnodup := nodup_preorderFrom table
  have hparts : ∀ {part other : Node}, part ≠ other → ∀ row,
      d.isSectionRow table part row = true → d.isSectionRow table other row = true → False :=
    fun hne _ h h' => hne (part_eq_of_isSectionRow h h')
  have hbody : ∀ {part : Node}, part ≠ .tableBody → ∀ row,
      d.isSectionRow table part row = true → d.isBodyRow table row = true → False := by
    intro part hne row h h'
    rw [isBodyRow, isBareRow_eq_false h, Bool.false_or] at h'
    exact hparts hne row h h'
  rw [collectRows_eq, List.nodup_append, List.nodup_append]
  refine ⟨⟨hnodup.filter _, hnodup.filter _, ?_⟩, hnodup.filter _, ?_⟩
  · rintro row hrow _ hrow' rfl
    exact hbody (by decide) row (List.mem_filter.mp hrow).2 (List.mem_filter.mp hrow').2
  · rintro row hrow _ hrow' rfl
    have hfooter := (List.mem_filter.mp hrow').2
    obtain hrow | hrow := List.mem_append.mp hrow
    · exact hparts (by decide) row (List.mem_filter.mp hrow).2 hfooter
    · exact hbody (by decide) row hfooter (List.mem_filter.mp hrow).2

theorem mem_preorderFrom_of_isBareRow (h : d.isBareRow table row = true) :
    row ∈ d.preorderFrom table := by
  simp only [isBareRow, Bool.and_eq_true, beq_iff_eq] at h
  exact mem_preorderFrom_of_child ((d.mem_children_iff).mpr h.1) (mem_preorderFrom_self row)

theorem mem_preorderFrom_of_isSectionRow (h : d.isSectionRow table part row = true) :
    row ∈ d.preorderFrom table := by
  simp only [isSectionRow, Bool.and_eq_true, beq_iff_eq, Option.any_eq_true] at h
  obtain ⟨-, inner, hinner, -, htable⟩ := h
  exact mem_preorderFrom_of_child ((d.mem_children_iff).mpr htable)
    (mem_preorderFrom_of_child ((d.mem_children_iff).mpr hinner) (mem_preorderFrom_self row))

theorem mem_collectRows_iff : row ∈ (d.collectRows table).1 ↔
    d.isBareRow table row = true ∨ d.isSectionRow table .tableHeader row = true ∨
      d.isSectionRow table .tableBody row = true ∨ d.isSectionRow table .tableFooter row = true := by
  have hbare : d.isBareRow table row = true → row ∈ d.preorderFrom table :=
    mem_preorderFrom_of_isBareRow
  have hpart : ∀ part, d.isSectionRow table part row = true → row ∈ d.preorderFrom table :=
    fun _ => mem_preorderFrom_of_isSectionRow
  rw [collectRows_eq, List.mem_append, List.mem_append, List.mem_filter, List.mem_filter,
    List.mem_filter, isBodyRow, Bool.or_eq_true]
  constructor
  · rintro ((⟨-, h⟩ | ⟨-, h | h⟩) | ⟨-, h⟩)
    · exact Or.inr (Or.inl h)
    · exact Or.inl h
    · exact Or.inr (Or.inr (Or.inl h))
    · exact Or.inr (Or.inr (Or.inr h))
  · rintro (h | h | h | h)
    · exact Or.inl (Or.inr ⟨hbare h, Or.inl h⟩)
    · exact Or.inl (Or.inl ⟨hpart _ h, h⟩)
    · exact Or.inl (Or.inr ⟨hpart _ h, Or.inr h⟩)
    · exact Or.inr ⟨hpart _ h, h⟩

/-- The header row of a table: the first row of its headers or, without one, the first child of the
table if that is a row. -/
def headerRow? (d : Document) (table : d.Id) : Option d.Id :=
  ((d.preorderFrom table).find? (d.isSectionRow table .tableHeader)).or
    ((d.children table).head?.filter (d.isBareRow table))

theorem headerRow?_eq (table : d.Id) :
    d.headerRow? table = (d.sectionRows table .tableHeader).head?.or
      ((d.children table).head?.filter (d.node · = .tableRow)) := by
  have hbare : ∀ c ∈ (d.children table).head?, d.isBareRow table c = (d.node c == .tableRow) := by
    intro c hc
    have hparent := (d.mem_children_iff).mp (List.mem_of_mem_head? hc)
    rw [isBareRow, hparent]
    simp
  rw [headerRow?, sectionRows_eq, List.head?_filter]
  cases hc : (d.children table).head? with
  | none => rfl
  | some c => simp [Option.filter, hbare c hc]

theorem header_collectRows (table : d.Id) :
    (d.collectRows table).2 = (d.headerRow? table).map (fun _ => 0) ∧
      ∀ row ∈ d.headerRow? table, (d.collectRows table).1.head? = some row := by
  rw [headerRow?_eq, collectRows]
  dsimp only
  cases hhead : d.sectionRows table .tableHeader with
  | cons row rows => simp
  | nil =>
    rw [startsWithRow, bodyRows]
    cases d.children table with
    | nil => simp
    | cons c l => by_cases hrow : d.node c = .tableRow <;> simp [hrow]

/-- A grid that shows each cell of a table in its place. -/
structure Flattens (d : Document) (table : d.Id) (g : Grid) : Prop where
  header : g.header = (d.collectRows table).2
  length : g.rows.length = (d.collectRows table).1.length
  columns : IsGreatest {n | ∃ row ∈ (d.collectRows table).1, n = (d.children row).length} g.columns
  regular : ∀ fields ∈ g.rows, fields.length = g.columns
  cell : ∀ (i j : Nat) (row cell : d.Id), (d.collectRows table).1[i]? = some row →
    (d.children row)[j]? = some cell → d.kind cell = .tableCell →
      (g.rows[i]?.bind (·[j]?)) = some (Text.trim (d.cellText cell))
  blank : ∀ (i j : Nat) (row : d.Id), (d.collectRows table).1[i]? = some row → j < g.columns →
    (∀ cell, (d.children row)[j]? = some cell → d.kind cell ≠ .tableCell) →
      (g.rows[i]?.bind (·[j]?)) = some []

theorem isGreatest_foldl_max (l : List Nat) : IsGreatest {n | n ∈ 0 :: l} (l.foldl max 0) :=
  List.max?_eq_some_iff.mp List.max?_cons'

theorem grid?_eq_none_iff :
    d.grid? table = none ↔ ∀ row ∈ (d.collectRows table).1, d.children row = [] := by
  obtain ⟨hmem, hle⟩ :=
    isGreatest_foldl_max ((d.collectRows table).1.map fun row => (d.children row).length)
  rw [grid?]
  dsimp only
  constructor
  · intro h row hrow
    split_ifs at h with hnone
    rw [Bool.or_eq_true, List.isEmpty_iff, beq_iff_eq] at hnone
    obtain hrows | hzero := hnone
    · rw [hrows] at hrow
      cases hrow
    · have hlength := hle (List.mem_cons_of_mem 0 (List.mem_map_of_mem hrow))
      rw [hzero] at hlength
      exact List.eq_nil_of_length_eq_zero (Nat.le_zero.mp hlength)
  · intro h
    obtain hzero | hlength := List.mem_cons.mp hmem
    · rw [hzero]
      simp
    · obtain ⟨row, hrow, hlength⟩ := List.mem_map.mp hlength
      rw [h row hrow, List.length_nil] at hlength
      rw [← hlength]
      simp

theorem isGreatest_columns {g : Grid} (h : d.grid? table = some g) :
    IsGreatest {n | ∃ row ∈ (d.collectRows table).1, n = (d.children row).length} g.columns := by
  obtain ⟨hmem, hle⟩ :=
    isGreatest_foldl_max ((d.collectRows table).1.map fun row => (d.children row).length)
  rw [grid?] at h
  dsimp only at h
  split_ifs at h with hnone
  cases h
  rw [Bool.or_eq_true, beq_iff_eq, not_or] at hnone
  constructor
  · obtain ⟨row, hrow, hlength⟩ := List.mem_map.mp ((List.mem_cons.mp hmem).resolve_left hnone.2)
    exact ⟨row, hrow, hlength.symm⟩
  · rintro n ⟨row, hrow, rfl⟩
    exact hle (List.mem_cons_of_mem 0 (List.mem_map_of_mem hrow))

theorem gridCell_of_tableCell {cells : List d.Id} {j : Nat} {cell : d.Id}
    (hj : cells[j]? = some cell) (hk : d.kind cell = .tableCell) :
    d.gridCell cells j = Text.trim (d.cellText cell) := by
  rw [kind] at hk
  rw [gridCell, hj]
  cases hn : d.node cell with
  | tableCell literal =>
    rw [cellText_eq d (by rw [hn]; rfl)]
    simp [hn]
  | _ =>
    rw [hn] at hk
    cases hk

theorem gridCell_eq_nil {cells : List d.Id} {j : Nat}
    (h : ∀ cell, cells[j]? = some cell → d.kind cell ≠ .tableCell) : d.gridCell cells j = [] := by
  rw [gridCell]
  cases hj : cells[j]? with
  | none => rfl
  | some cell =>
    have hk := h cell hj
    rw [kind] at hk
    cases hn : d.node cell with
    | tableCell literal => exact absurd (by rw [hn]; rfl) hk
    | _ => simp [hn]

theorem flattens_of_grid? {g : Grid} (h : d.grid? table = some g) : d.Flattens table g := by
  obtain ⟨-, hheader, hrows⟩ := exists_of_grid? h
  have hcolumns := isGreatest_columns h
  have hfield : ∀ (i j : Nat) (row : d.Id), (d.collectRows table).1[i]? = some row → j < g.columns →
      (g.rows[i]?.bind (·[j]?)) = some (d.gridCell (d.children row) j) := by
    intro i j row hrow hj
    rw [hrows, List.getElem?_map, hrow, Option.map_some, Option.bind_some, List.getElem?_map,
      List.getElem?_range hj, Option.map_some]
  refine ⟨hheader, by rw [hrows, List.length_map], hcolumns, ?_, ?_, ?_⟩
  · intro fields hfields
    rw [hrows] at hfields
    obtain ⟨row, -, rfl⟩ := List.mem_map.mp hfields
    rw [List.length_map, List.length_range]
  · intro i j row cell hrow hcell hk
    have hle := hcolumns.2 ⟨row, List.mem_of_getElem? hrow, rfl⟩
    have hlt := (List.getElem?_eq_some_iff.mp hcell).1
    rw [hfield i j row hrow (by omega), gridCell_of_tableCell hcell hk]
  · intro i j row hrow hj hnone
    rw [hfield i j row hrow hj, gridCell_eq_nil hnone]

end Document
end ChatMarkup
