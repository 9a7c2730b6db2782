import ChatMarkup.Proofs.Table.Layout
import Mathlib.Algebra.Order.BigOperators.Group.List
import Mathlib.Algebra.Order.Group.Nat

namespace ChatMarkup

variable {cell : Text} {width : Nat} {row : List Text} {widths : List Nat}

/-- How a cell stands in a field as wide as its column: whole, with spaces after it, or, if it is
too long, a beginning of it with the ellipsis. -/
structure Fitted (cell : Text) (width : Nat) (field : Text) : Prop where
  length_eq : field.length = width
  whole : cell.length ≤ width → field = cell ++ List.replicate (width - cell.length) ' '
  cut : width < cell.length → ∃ kept, kept <+: cell ∧ field = kept ++ ellipsis

/-- A line in which every cell of a row stands in the field of its column. -/
structure InColumns (widths : List Nat) (row : List Text) (line : Text) : Prop where
  laidOut : LaidOut widths (readFields widths line) line
  fitted : List.Forall₂ (fun place field => Fitted place.1 place.2 field) (row.zip widths)
    (readFields widths line)

theorem fitted_fit (h : CutsFit cell width) : Fitted cell width (fit cell width) where
  length_eq := length_fit_eq_iff.mpr h
  whole hle := by rw [fit, if_neg (Nat.not_lt.mpr hle)]
  cut hlt := ⟨cell.take (width - ellipsis.length), List.take_prefix _ _, by rw [fit, if_pos hlt]⟩

theorem forall₂_fitted (h : List.Forall₂ CutsFit row widths) :
    List.Forall₂ (fun place field => Fitted place.1 place.2 field) (row.zip widths)
      (List.zipWith fit row widths) := by
  induction h with
  | nil => exact List.Forall₂.nil
  | cons hcell _ ih => exact List.Forall₂.cons (fitted_fit hcell) ih

theorem sum_eq_iff_of_forall₂_le {a b : List Nat} (h : List.Forall₂ (· ≤ ·) a b) :
    (b.map (· + 3)).sum = (a.map (· + 3)).sum ↔ b = a := by
  induction h with
  | nil => simp
  | @cons x y a b hxy hab ih =>
    have hle : (a.map (· + 3)).sum ≤ (b.map (· + 3)).sum := by
      apply List.Forall₂.sum_le_sum
      rw [List.forall₂_map_left_iff, List.forall₂_map_right_iff]
      exact hab.imp fun _ _ h => Nat.add_le_add_right h 3
    simp only [List.map_cons, List.sum_cons, List.cons.injEq, ← ih]
    omega

/-- A line is as long as its columns need if and only if no cell is cut without room for the
ellipsis. -/
theorem length_barred_zipWith_fit_iff (h : row.length = widths.length) :
    (barred (List.zipWith fit row widths)).length = 1 + (widths.map (· + 3)).sum ↔
      List.Forall₂ CutsFit row widths := by
  have hwider : List.Forall₂ (· ≤ ·) widths ((List.zipWith fit row widths).map List.length) := by
    refine List.forall₂_iff_get.mpr ⟨by simp [h], fun j hj _ => ?_⟩
    simpa using le_length_fit _ _
  rw [length_barred, Nat.add_left_cancel_iff, sum_eq_iff_of_forall₂_le hwider,
    map_length_zipWith_fit_iff h]

theorem inColumns_barred (h : List.Forall₂ CutsFit row widths) :
    InColumns widths row (barred (List.zipWith fit row widths)) := by
  have hlaid := laidOut_barred (List.zipWith fit row widths)
  rw [(map_length_zipWith_fit_iff h.length_eq).mpr h] at hlaid
  constructor
  · rw [hlaid.fields_eq]
    exact hlaid
  · rw [hlaid.fields_eq]
    exact forall₂_fitted h

/-- Where columns are as wide as their longest cells or as the limit, the limit alone decides which
cells are cut without room for the ellipsis. -/
theorem forall₂_cutsFit_iff (limit : Nat)
    (h : List.Forall₂ (fun cell width => cell.length ≤ width) row widths) :
    List.Forall₂ CutsFit row (widths.map (min · limit)) ↔ ∀ cell ∈ row, CutsFit cell limit := by
  induction h with
  | nil => simp
  | @cons cell width row widths hcell _ ih =>
    have hhead : CutsFit cell (min width limit) ↔ CutsFit cell limit := by
      rw [CutsFit, CutsFit]
      omega
    rw [List.map_cons, List.forall₂_cons, List.forall_mem_cons, hhead, ih]

namespace Grid

variable {g : Grid} {o : TableOptions} {limit : Nat}

theorem columnWidths_of_limit (hmax : o.maxColumnWidth = some limit) :
    g.columnWidths o = (g.columnWidths { o with maxColumnWidth := none }).map
      (min · (max limit o.minColumnWidth)) := by
  simp [columnWidths, columnWidth, hmax]

theorem forall₂_cutsFit_columnWidths_iff (hmax : o.maxColumnWidth = some limit) (hg : g.Regular)
    (hrow : row ∈ g.rows) :
    List.Forall₂ CutsFit row (g.columnWidths o) ↔
      ∀ cell ∈ row, CutsFit cell (max limit o.minColumnWidth) := by
  rw [columnWidths_of_limit hmax]
  apply forall₂_cutsFit_iff
  exact forall₂_length_le (o := { o with maxColumnWidth := none }) rfl hg hrow

/-- A table with a limit has one line for each row, in order, and a line of dashes under the header
row. The lines of rows are as long as the line of dashes if and only if the ellipsis fits into the
limit, or into the least width if that is greater, or no cell is longer than these; and then every
cell stands in its column, whole or cut. -/
theorem splitAt_render_of_limit (g : Grid) (o : TableOptions) (limit : Nat)
    (hmax : o.maxColumnWidth = some limit) (hg : g.Regular) :
    ∃ (line : List Text → Text) (dashes : Text),
      Text.splitAt '\n' (g.render o) = [fence] ++ (g.rows.zipIdx.flatMap fun r =>
        line r.1 :: if g.header = some r.2 then [dashes] else []) ++ [fence, []] ∧
      LaidOut (g.columnWidths o) ((g.columnWidths o).map (List.replicate · '-')) dashes ∧
      (g.columnWidths o).length = g.columns ∧
      ((∀ row ∈ g.rows, (line row).length = dashes.length) ↔
        ∀ row ∈ g.rows, ∀ cell ∈ row, CutsFit cell (max limit o.minColumnWidth)) ∧
      ((∀ row ∈ g.rows, ∀ cell ∈ row, CutsFit cell (max limit o.minColumnWidth)) →
        ∀ row ∈ g.rows, InColumns (g.columnWidths o) row (line row)) := by
  have hdashes := laidOut_dashes (g.columnWidths o)
  have hlength : ∀ row ∈ g.rows, row.length = (g.columnWidths o).length := fun row hrow =>
    (hg.length_row row hrow).trans (g.length_columnWidths o).symm
  refine ⟨fun row => barred (List.zipWith fit row (g.columnWidths o)),
    barred ((g.columnWidths o).map (List.replicate · '-')), ?_, hdashes,
    g.length_columnWidths o, ?_, ?_⟩
  · rw [splitAt_render hg, lines, List.append_assoc]
    rfl
  · rw [hdashes.length_eq]
    refine forall₂_congr fun row hrow => ?_
    rw [length_barred_zipWith_fit_iff (hlength row hrow),
      forall₂_cutsFit_columnWidths_iff hmax hg hrow]
  · intro hcuts row hrow
    exact inColumns_barred ((forall₂_cutsFit_columnWidths_iff hmax hg hrow).mpr (hcuts row hrow))

/-- A limit above the length of the ellipsis cuts a word in the first column and none in the
second. -/
theorem splitAt_render_of_limit_six :
    let g : Grid := ⟨[["Supercalifragilistic".toList, ['n']], ["Word".toList, ['1']]], some 0, 2⟩
    let o : TableOptions := { minColumnWidth := 3, maxColumnWidth := some 6 }
    o.maxColumnWidth = some 6 ∧ g.Regular ∧
      (∀ row ∈ g.rows, ∀ cell ∈ row, CutsFit cell (max 6 o.minColumnWidth)) ∧
      g.columnWidths o = [6, 3] ∧
      Text.splitAt '\n' (g.render o) = [fence, "| Sup... | n   |".toList,
        "| ------ | --- |".toList, "| Word   | 1   |".toList, fence, []] ∧
      InColumns [6, 3] ["Supercalifragilistic".toList, ['n']] "| Sup... | n   |".toList := by
  intro g o
  have hg : g.Regular := ⟨by decide, by decide, by decide⟩
  have hcuts : ∀ row ∈ g.rows, ∀ cell ∈ row, CutsFit cell (max 6 o.minColumnWidth) := by
    intro row _ cell _ _
    decide
  have hwidths : g.columnWidths o = [6, 3] := by decide +kernel
  have hsplit : Text.splitAt '\n' (g.render o) = [fence, "| Sup... | n   |".toList,
      "| ------ | --- |".toList, "| Word   | 1   |".toList, fence, []] := by decide +kernel
  obtain ⟨line, dashes, hlines, -, -, -, hcolumns⟩ := splitAt_render_of_limit g o 6 rfl hg
  have hline : line ["Supercalifragilistic".toList, ['n']] = "| Sup... | n   |".toList :=
    (List.cons.inj (List.cons.inj (hlines.symm.trans hsplit)).2).1
  have hrow := hcolumns hcuts ["Supercalifragilistic".toList, ['n']] List.mem_cons_self
  rw [hline, hwidths] at hrow
  exact ⟨rfl, hg, hcuts, hwidths, hsplit, hrow⟩

/-- A limit below the length of the ellipsis, with a least width below it too: the field of the cut
cell is wider than its column, and the line of dashes is shorter than the line of the row. -/
theorem render_column_below_ellipsis :
    let g : Grid := ⟨[["abcd".toList]], some 0, 1⟩
    let o : TableOptions := { minColumnWidth := 1, maxColumnWidth := some 2 }
    g.Regular ∧ g.columnWidths o = [2] ∧ Text.splitAt '\n' (g.render o) =
      [fence, "| ... |".toList, "| -- |".toList, fence, []] := by
  intro g o
  exact ⟨⟨by decide, by decide, by decide⟩, by decide +kernel, by decide +kernel⟩

end Grid
end ChatMarkup
