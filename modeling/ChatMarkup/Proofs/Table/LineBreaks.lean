import ChatMarkup.Document.Tree
import ChatMarkup.Proofs.Document.Order
import ChatMarkup.Proofs.Escape.Squeezed
import ChatMarkup.Proofs.Table.Layout
import ChatMarkup.Proofs.Text.Places
import ChatMarkup.Table.Flatten
import Mathlib.Data.List.Nodup
import Mathlib.Data.List.Range

namespace ChatMarkup

theorem newline_mem_fit_iff {content : Text} {width : Nat} :
    '\n' ∈ fit content width ↔ ∃ x y, content = x ++ '\n' :: y ∧
      (width < content.length → x.length < width - ellipsis.length) := by
  have hdots : '\n' ∉ ellipsis := by decide
  rw [fit]
  split
  · rename_i hlt
    rw [List.mem_append, or_iff_left hdots]
    constructor
    · intro h
      obtain ⟨x, y, hxy⟩ := List.append_of_mem h
      have hlength := congrArg List.length hxy
      rw [List.length_take, List.length_append, List.length_cons] at hlength
      refine ⟨x, y ++ content.drop (width - ellipsis.length), ?_, fun _ => by omega⟩
      rw [← List.cons_append, ← List.append_assoc, ← hxy, List.take_append_drop]
    · rintro ⟨x, y, rfl, hx⟩
      obtain ⟨k, hk⟩ := Nat.exists_eq_add_of_lt (hx hlt)
      rw [hk, Nat.add_assoc, List.take_length_add_append, List.take_succ_cons]
      simp
  · rename_i hge
    constructor
    · intro h
      rw [List.mem_append, or_iff_left (by simp)] at h
      obtain ⟨x, y, hxy⟩ := List.append_of_mem h
      exact ⟨x, y, hxy, fun hlt => absurd hlt hge⟩
    · rintro ⟨x, y, rfl, -⟩
      simp

/-- What a line break between two texts of a cell needs to be shown in a field: something other than
blanks on both sides, and, where the cell is cut, a place in front of the ellipsis. -/
structure ShowsBreak (before after : Text) (width : Nat) : Prop where
  text_before : ∃ a ∈ before, isBlank a = false
  text_after : ∃ a ∈ after, isBlank a = false
  kept : width < (Text.trim (before ++ '\n' :: after)).length →
    (before.dropWhile isBlank).length < width - ellipsis.length

theorem newline_mem_fit_trim_iff {t : Text} {width : Nat} :
    '\n' ∈ fit (Text.trim t) width ↔
      ∃ before after, t = before ++ '\n' :: after ∧ ShowsBreak before after width := by
  have hblank : isBlank '\n' = true := by decide
  rw [newline_mem_fit_iff]
  constructor
  · rintro ⟨x, y, hxy, hkept⟩
    obtain ⟨before, after, rfl, hbefore, hafter, rfl, -⟩ :=
      (Text.trim_eq_append_cons_iff hblank).mp hxy
    exact ⟨before, after, rfl, hbefore, hafter, hkept⟩
  · rintro ⟨before, after, rfl, hbefore, hafter, hkept⟩
    have htrim :=
      (Text.trim_eq_append_cons_iff hblank).mpr ⟨before, after, rfl, hbefore, hafter, rfl, rfl⟩
    exact ⟨_, _, htrim, hkept⟩

def Node.formula? : Node → Option Text
  | .math literal | .mathBlock literal => some literal
  | _ => none

namespace Grid

variable {g : Grid}

theorem count_newline_gridLine (fields : List Text) :
    (gridLine fields).count '\n' = fields.flatten.count '\n' + 1 := by
  rw [gridLine, List.count_append, List.count_append, Text.count_join (by decide)]
  simp

theorem count_newline_rowLines (widths : List Nat) (i : Nat) (row : List Text) :
    (g.rowLines widths i row).count '\n' =
      (List.zipWith fit row widths).flatten.count '\n' + 1 +
        if g.header = some i then 1 else 0 := by
  have hdashes : (widths.map (List.replicate · '-')).flatten.count '\n' = 0 := by
    rw [List.count_eq_zero]
    simp
  rw [rowLines, List.count_append, count_newline_gridLine]
  split
  · rw [count_newline_gridLine, hdashes]
  · rfl

theorem count_newline_flatten_rowLines (widths : List Nat) (rows : List (List Text)) (k : Nat) :
    ((rows.zipIdx k).map fun r => g.rowLines widths r.2 r.1).flatten.count '\n' =
      (rows.flatMap fun row => (List.zipWith fit row widths).flatten).count '\n' + rows.length +
        (rows.zipIdx k).countP fun r => g.header = some r.2 := by
  induction rows generalizing k with
  | nil => rfl
  | cons row rows ih =>
    rw [List.zipIdx_cons, List.map_cons, List.flatten_cons, List.count_append, ih,
      count_newline_rowLines, List.flatMap_cons, List.count_append, List.length_cons,
      List.countP_cons]
    simp only [decide_eq_true_eq]
    omega

theorem countP_header (hheader : ∀ i ∈ g.header, i < g.rows.length) :
    (g.rows.zipIdx.countP fun r => g.header = some r.2) = if g.header.isSome then 1 else 0 := by
  cases hh : g.header with
  | none => simp
  | some i =>
    have hcount : (g.rows.zipIdx.countP fun r => some i = some r.2) =
        (g.rows.zipIdx.map Prod.snd).count i := by
      rw [List.count, List.countP_map]
      refine List.countP_congr fun r _ => ?_
      rw [decide_eq_true_iff, Option.some.injEq, Function.comp_apply, beq_iff_eq]
      exact eq_comm
    have hi : i ∈ List.range' 0 g.rows.length :=
      List.mem_range'_1.mpr ⟨i.zero_le, by simpa using hheader i hh⟩
    rw [hcount, List.zipIdx_map_snd]
    exact List.count_eq_one_of_mem List.nodup_range' hi

/-- The line breaks of a table: those of its fields, one for each row, one for the line of dashes
and one for each fence. -/
theorem count_newline_render (o : TableOptions) (hheader : ∀ i ∈ g.header, i < g.rows.length) :
    (g.render o).count '\n' =
      (g.rows.flatMap fun row => (List.zipWith fit row (g.columnWidths o)).flatten).count '\n' +
        g.rows.length + (if g.header.isSome then 1 else 0) + 2 := by
  have hfence : fence.count '\n' = 0 := by decide
  rw [render, List.mapIdx_eq_zipIdx_map]
  simp only [List.count_append, hfence, count_newline_flatten_rowLines, countP_header hheader,
    List.count_singleton_self]
  omega

end Grid

namespace Document

variable {d : Document}

/-- The nodes whose own texts make up the plain text of a node, in order. -/
def textNodes (d : Document) (id : d.Id) : List d.Id :=
  if hasOwnText (d.node id) then [id]
  else (d.children id).attach.flatMap fun c => d.textNodes c.val
termination_by d.size - id.val
decreasing_by
  have := d.val_lt_of_mem_children c.property
  have := c.val.isLt
  omega

theorem textNodes_of_hasOwnText {id : d.Id} (h : hasOwnText (d.node id) = true) :
    d.textNodes id = [id] := by
  rw [textNodes, if_pos h]

theorem textNodes_eq {id : d.Id} (h : hasOwnText (d.node id) = false) :
    d.textNodes id = (d.children id).flatMap d.textNodes := by
  rw [textNodes, if_neg (by simp [h])]
  simp only [List.flatMap_subtype, List.unattach_attach]

theorem hasOwnText_of_mem_textNodes {id f : d.Id} (h : f ∈ d.textNodes id) :
    hasOwnText (d.node f) = true := by
  induction id using childInduction with
  | step id ih =>
    cases hown : hasOwnText (d.node id) with
    | true =>
      rw [textNodes_of_hasOwnText hown, List.mem_singleton] at h
      rw [h, hown]
    | false =>
      rw [textNodes_eq hown, List.mem_flatMap] at h
      obtain ⟨c, hc, hf⟩ := h
      exact ih c hc hf

theorem flatMap_textNodes (id : d.Id) : (d.textNodes id).flatMap d.cellText = d.cellText id := by
  induction id using childInduction with
  | step id ih =>
    cases hown : hasOwnText (d.node id) with
    | true => rw [textNodes_of_hasOwnText hown, List.flatMap_singleton]
    | false =>
      rw [textNodes_eq hown, cellText_eq _ hown, List.flatMap_assoc]
      exact List.flatMap_congr ih

theorem cellText_of_formula? {f : d.Id} {t : Text} (h : (d.node f).formula? = some t) : d.cellText f = t := by
  rw [cellText]
  cases hn : d.node f with
  | math literal | mathBlock literal =>
    rw [hn] at h
    exact Option.some.inj h
  | _ =>
    rw [hn] at h
    cases h

theorem newline_notMem_cellText {f : d.Id} (hown : hasOwnText (d.node f) = true)
    (h : (d.node f).formula? = none) : '\n' ∉ d.cellText f := by
  rw [cellText]
  cases hn : d.node f with
  | text literal => exact (isSqueezed_collapseFrom _ _).newline
  | code literal =>
    intro hbreak
    obtain ⟨c, -, hc⟩ := List.mem_map.mp hbreak
    split_ifs at hc with hnewline
    · exact absurd hc (by decide)
    · exact hnewline hc
  | image destination title =>
    dsimp only
    decide
  | math literal | mathBlock literal =>
    rw [hn] at h
    cases h
  | _ =>
    rw [hn] at hown
    cases hown

theorem cellText_eq_append_newline_iff {f : d.Id} {x y : Text}
    (hown : hasOwnText (d.node f) = true) :
    d.cellText f = x ++ '\n' :: y ↔ (d.node f).formula? = some (x ++ '\n' :: y) := by
  cases hf : (d.node f).formula? with
  | some literal => rw [cellText_of_formula? hf, Option.some.injEq]
  | none =>
    refine iff_of_false (fun htext => newline_notMem_cellText hown hf ?_) (by simp)
    simp [htext]

/-- A formula in the cell has a line break that a field of this width shows. -/
def BreaksIn (d : Document) (cell : d.Id) (width : Nat) : Prop :=
  ∃ front formula back before after,
    (d.children cell).flatMap d.textNodes = front ++ formula :: back ∧
    (d.node formula).formula? = some (before ++ '\n' :: after) ∧
    ShowsBreak (front.flatMap d.cellText ++ before) (after ++ back.flatMap d.cellText) width

theorem newline_mem_fit_cell_iff {cell : d.Id} {width : Nat} :
    '\n' ∈ fit (Text.trim ((d.children cell).flatMap d.cellText)) width ↔
      d.BreaksIn cell width := by
  have htext : (d.children cell).flatMap d.cellText =
      ((d.children cell).flatMap d.textNodes).flatMap d.cellText := by
    rw [List.flatMap_assoc]
    exact List.flatMap_congr fun c _ => (flatMap_textNodes c).symm
  have hown : ∀ front formula back,
      (d.children cell).flatMap d.textNodes = front ++ formula :: back →
        hasOwnText (d.node formula) = true := by
    intro front formula back hsplit
    have hmem : formula ∈ (d.children cell).flatMap d.textNodes := by simp [hsplit]
    obtain ⟨c, -, hc⟩ := List.mem_flatMap.mp hmem
    exact hasOwnText_of_mem_textNodes hc
  rw [newline_mem_fit_trim_iff, htext]
  constructor
  · rintro ⟨_, _, hbreak, hshown⟩
    obtain ⟨front, formula, back, before, after, hsplit, hformula, rfl, rfl⟩ :=
      Text.flatMap_eq_append_cons_iff.mp hbreak
    rw [cellText_eq_append_newline_iff (hown _ _ _ hsplit)] at hformula
    exact ⟨front, formula, back, before, after, hsplit, hformula, hshown⟩
  · rintro ⟨front, formula, back, before, after, hsplit, hformula, hshown⟩
    rw [← cellText_eq_append_newline_iff (hown _ _ _ hsplit)] at hformula
    exact ⟨_, _, Text.flatMap_eq_append_cons_iff.mpr
      ⟨front, formula, back, before, after, hsplit, hformula, rfl, rfl⟩, hshown⟩

theorem newline_mem_fit_gridCell_iff {cells : List d.Id} {j width : Nat} :
    '\n' ∈ fit (d.gridCell cells j) width ↔
      ∃ cell, cells[j]? = some cell ∧ d.kind cell = .tableCell ∧ d.BreaksIn cell width := by
  have hempty : '\n' ∉ fit [] width := by simp [fit]
  have hkind : ∀ cell, d.kind cell = (d.node cell).kind := fun _ => rfl
  rw [gridCell]
  cases hj : cells[j]? with
  | none => simp [hempty]
  | some cell =>
    simp only [Option.some.injEq, exists_eq_left', hkind]
    cases hn : d.node cell with
    | tableCell literal => exact newline_mem_fit_cell_iff.trans (and_iff_right rfl).symm
    | _ => exact iff_of_false hempty fun h => by cases h.1

theorem newline_mem_fields_iff {g : Grid} {o : TableOptions} {cells : List d.Id} :
    '\n' ∈ (List.zipWith fit ((List.range g.columns).map (d.gridCell cells))
        (g.columnWidths o)).flatten ↔
      ∃ (j : Nat) (cell : d.Id) (width : Nat), cells[j]? = some cell ∧
        (g.columnWidths o)[j]? = some width ∧ d.kind cell = .tableCell ∧ d.BreaksIn cell width := by
  have hwidth : ∀ j width : Nat, (g.columnWidths o)[j]? = some width ↔
      j < g.columns ∧ g.columnWidth o j = width := by
    intro j width
    rw [Grid.columnWidths, List.getElem?_map, Option.map_eq_some_iff]
    simp [List.getElem?_eq_some_iff]
  rw [Grid.columnWidths, List.zipWith_map, List.zipWith_self, ← List.flatMap_def, List.mem_flatMap]
  constructor
  · rintro ⟨j, hj, hbreak⟩
    obtain ⟨cell, hcell, hkind, hbreak⟩ := newline_mem_fit_gridCell_iff.mp hbreak
    exact ⟨j, cell, _, hcell, (hwidth j _).mpr ⟨List.mem_range.mp hj, rfl⟩, hkind, hbreak⟩
  · rintro ⟨j, cell, width, hcell, hw, hkind, hbreak⟩
    obtain ⟨hj, rfl⟩ := (hwidth j width).mp hw
    exact ⟨j, List.mem_range.mpr hj, newline_mem_fit_gridCell_iff.mpr ⟨cell, hcell, hkind, hbreak⟩⟩

theorem exists_of_grid? {table : d.Id} {g : Grid} (h : d.grid? table = some g) :
    (d.collectRows table).1 ≠ [] ∧ g.header = (d.collectRows table).2 ∧
      g.rows = (d.collectRows table).1.map fun row =>
        (List.range g.columns).map (d.gridCell (d.children row)) := by
  rw [grid?] at h
  dsimp only at h
  split_ifs at h with hnone
  cases h
  rw [Bool.or_eq_true, not_or] at hnone
  exact ⟨fun hrows => hnone.1 (List.isEmpty_iff.mpr hrows), rfl, rfl⟩

theorem lt_of_mem_header {table : d.Id} (hrows : (d.collectRows table).1 ≠ []) :
    ∀ i ∈ (d.collectRows table).2, i < (d.collectRows table).1.length := by
  intro i hi
  have hzero : i = 0 := by
    rw [collectRows] at hi
    dsimp only at hi
    split_ifs at hi
    · exact (Option.some.inj hi).symm
    · cases hi
  rw [hzero]
  exact List.length_pos_iff.mpr hrows

/-- The text of a table is empty if and only if the table has no cells. Otherwise it has one line
for each row, one for the dashes under a header row and two for the fences, unless a formula in a
cell has a line break that is neither trimmed nor cut off. -/
theorem count_newline_renderTable_iff (d : Document) (table : d.Id) (o : TableOptions) :
    (d.renderTable table o = [] ↔ d.grid? table = none) ∧
    ∀ g ∈ d.grid? table,
      ((d.renderTable table o).count '\n' =
          (d.collectRows table).1.length + (if g.header.isSome then 1 else 0) + 2 ↔
        ∀ row ∈ (d.collectRows table).1, ∀ (j : Nat) (cell : d.Id) (width : Nat),
          (d.children row)[j]? = some cell → (g.columnWidths o)[j]? = some width →
            d.kind cell = .tableCell → ¬d.BreaksIn cell width) := by
  refine ⟨d.renderTable_eq_nil_iff, fun g hg => ?_⟩
  obtain ⟨hrows, hheader, hcells⟩ := exists_of_grid? hg
  have hlength : g.rows.length = (d.collectRows table).1.length := by rw [hcells, List.length_map]
  have hcount := g.count_newline_render o (hheader ▸ hlength ▸ lt_of_mem_header hrows)
  have htext : d.renderTable table o = g.render o := by
    rw [renderTable, hg]
  have hzero : (g.render o).count '\n' =
      (d.collectRows table).1.length + (if g.header.isSome then 1 else 0) + 2 ↔
        (g.rows.flatMap fun row =>
          (List.zipWith fit row (g.columnWidths o)).flatten).count '\n' = 0 := by
    omega
  rw [htext, hzero, List.count_eq_zero, hcells, List.flatMap_map, List.mem_flatMap, not_exists]
  refine forall_congr' fun row => ?_
  rw [not_and, newline_mem_fields_iff]
  simp only [not_exists, not_and]

/-- Line breaks in text, in code and at the ends of a formula put no line break into a row. -/
theorem renderTable_of_breaks :
    let d := Document.ofTrees [.node .table [
      .node .tableRow [.node (.tableCell []) [.node (.text ['x', '\n', 'y']) []],
        .node (.tableCell []) [.node (.mathBlock ['\n', 'a', '\n']) []]],
      .node .tableRow [.node (.tableCell []) [.node (.code ['c', '\n', 'd']) []]]]]
    let table : d.Id := ⟨1, by decide +kernel⟩
    ∃ g, d.grid? table = some g ∧ g.header = some 0 ∧
      d.renderTable table {} = "```\n| x y | a   |\n| --- | --- |\n| c d |     |\n```\n".toList ∧
      ∀ row ∈ (d.collectRows table).1, ∀ (j : Nat) (cell : d.Id) (width : Nat),
        (d.children row)[j]? = some cell → (g.columnWidths {})[j]? = some width →
          d.kind cell = .tableCell → ¬d.BreaksIn cell width := by
  intro d table
  have hgrid : d.grid? table =
      some ⟨[["x y".toList, ['a']], ["c d".toList, []]], some 0, 2⟩ := by decide +kernel
  have htext : d.renderTable table {} =
      "```\n| x y | a   |\n| --- | --- |\n| c d |     |\n```\n".toList := by decide +kernel
  refine ⟨_, hgrid, rfl, htext, ?_⟩
  apply ((count_newline_renderTable_iff d table {}).2 _ hgrid).mp
  rw [htext]
  decide +kernel

/-- A line break inside of a formula ends the line of its row. -/
theorem renderTable_formula_on_two_lines :
    let d := Document.ofTrees [.node .table [.node .tableRow [.node (.tableCell [])
      [.node (.math ['a', '\n', 'b']) []]]]]
    let table : d.Id := ⟨1, by decide +kernel⟩
    (d.collectRows table).1.length = 1 ∧ (d.collectRows table).2 = some 0 ∧
      d.renderTable table {} = "```\n| a\nb |\n| --- |\n```\n".toList ∧
      (d.renderTable table {}).count '\n' = 5 := by
  decide +kernel

end Document
end ChatMarkup
