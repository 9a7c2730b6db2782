import ChatMarkup.Table.Grid
import Mathlib.Algebra.GroupWithZero.Nat
import Mathlib.Data.List.Zip
import Mathlib.Order.Bounds.Basic

namespace ChatMarkup

/-- A table line without its end: every field between a bar and a space on either side. -/
def barred : List Text → Text
  | [] => ['|']
  | field :: fields => '|' :: ' ' :: (field ++ ' ' :: barred fields)

/-- The place of the bar in front of a column, two characters before the field. -/
def barOffset (widths : List Nat) (j : Nat) : Nat := ((widths.take j).map (· + 3)).sum

/-- The fields of a line, read at the places that the widths of the columns give. -/
def readFields (widths : List Nat) (line : Text) : List Text :=
  widths.mapIdx fun j width => (line.drop (2 + barOffset widths j)).take width

/-- A line as long as its columns need, with a bar in front of every column and at the end, in which
the fields are read at their places. -/
structure LaidOut (widths : List Nat) (fields : List Text) (t : Text) : Prop where
  length_eq : t.length = 1 + (widths.map (· + 3)).sum
  bar : ∀ j ≤ widths.length, t[barOffset widths j]? = some '|'
  fields_eq : readFields widths t = fields

theorem gridLine_eq {fields : List Text} (h : fields ≠ []) :
    gridLine fields = barred fields ++ ['\n'] := by
  rw [gridLine]
  cases fields with
  | nil => exact absurd rfl h
  | cons field fields =>
    induction fields generalizing field with
    | nil => simp [Text.join, barred]
    | cons next fields ih =>
      have hrest := ih next (List.cons_ne_nil _ _)
      simp only [List.cons_append, List.nil_append] at hrest
      simp [Text.join_cons_cons, barred, hrest]

theorem length_barred (fields : List Text) :
    (barred fields).length = 1 + ((fields.map List.length).map (· + 3)).sum := by
  induction fields with
  | nil => rfl
  | cons field fields ih =>
    simp only [barred, List.length_cons, List.length_append, ih, List.map_cons, List.sum_cons]
    omega

theorem drop_barred (fields : List Text) {j : Nat} (h : j ≤ fields.length) :
    (barred fields).drop (barOffset (fields.map List.length) j) = barred (fields.drop j) := by
  induction j generalizing fields with
  | zero => rfl
  | succ j ih =>
    cases fields with
    | nil => cases h
    | cons field fields =>
      have hrest := ih fields (Nat.le_of_succ_le_succ h)
      have hfirst : '|' :: ' ' :: (field ++ ' ' :: barred fields) =
          ('|' :: ' ' :: (field ++ [' '])) ++ barred fields := by simp
      have hlength : ('|' :: ' ' :: (field ++ [' '])).length = field.length + 3 := by simp
      have hoffset : barOffset ((field :: fields).map List.length) (j + 1) =
          ('|' :: ' ' :: (field ++ [' '])).length + barOffset (fields.map List.length) j := by
        rw [hlength]
        rfl
      rw [barred, hoffset, hfirst, List.drop_length_add_append, hrest]
      rfl

theorem laidOut_barred (fields : List Text) :
    LaidOut (fields.map List.length) fields (barred fields) where
  length_eq := length_barred fields
  bar j hj := by
    have hhead (rest : List Text) : (barred rest)[0]? = some '|' := by cases rest <;> rfl
    rw [List.length_map] at hj
    have hdrop := hhead (fields.drop j)
    rw [← drop_barred fields hj, List.getElem?_drop] at hdrop
    exact hdrop
  fields_eq := by
    apply List.ext_getElem
    · rw [readFields, List.length_mapIdx, List.length_map]
    · intro j _ hj
      have hdrop := drop_barred fields (Nat.le_of_lt hj)
      rw [List.drop_eq_getElem_cons hj, barred] at hdrop
      simp only [readFields, List.getElem_mapIdx, List.getElem_map]
      rw [Nat.add_comm, ← List.drop_drop, hdrop]
      exact List.take_left

theorem laidOut_dashes (widths : List Nat) :
    LaidOut widths (widths.map (List.replicate · '-'))
      (barred (widths.map (List.replicate · '-'))) := by
  have hlengths : (widths.map (List.replicate · '-')).map List.length = widths := by
    simp [Function.comp_def]
  have hlaid := laidOut_barred (widths.map (List.replicate · '-'))
  rwa [hlengths] at hlaid

theorem newline_notMem_barred {fields : List Text} (h : ∀ field ∈ fields, '\n' ∉ field) :
    '\n' ∉ barred fields := by
  induction fields with
  | nil => decide
  | cons field fields ih =>
    have hfield : '\n' ∉ field := h field List.mem_cons_self
    have hfields : '\n' ∉ barred fields :=
      ih fun other hm => h other (List.mem_cons_of_mem field hm)
    simp [barred, hfield, hfields]

theorem newline_notMem_fit {cell : Text} (h : '\n' ∉ cell) (width : Nat) :
    '\n' ∉ fit cell width := by
  rw [fit]
  split
  · have htake : '\n' ∉ cell.take (width - ellipsis.length) := fun hm => h (List.mem_of_mem_take hm)
    have hdots : '\n' ∉ ellipsis := by decide
    simp [htake, hdots]
  · simp [h]

/-- A cell is cut only where the ellipsis has room. -/
def CutsFit (cell : Text) (width : Nat) : Prop := width < cell.length → ellipsis.length ≤ width

theorem length_fit_of_lt {cell : Text} {width : Nat} (h : width < cell.length) :
    (fit cell width).length = max width ellipsis.length := by
  rw [fit, if_pos h, List.length_append, List.length_take]
  omega

theorem le_length_fit (cell : Text) (width : Nat) : width ≤ (fit cell width).length := by
  rcases Nat.lt_or_ge width cell.length with h | h
  · rw [length_fit_of_lt h]
    exact Nat.le_max_left _ _
  · exact (length_fit_of_le h).ge

theorem length_fit_eq_iff {cell : Text} {width : Nat} :
    (fit cell width).length = width ↔ CutsFit cell width := by
  rw [CutsFit]
  rcases Nat.lt_or_ge width cell.length with h | h
  · rw [length_fit_of_lt h]
    omega
  · rw [length_fit_of_le h]
    omega

/-- Fields are as wide as their columns if and only if no cell is cut without room for the
ellipsis. -/
theorem map_length_zipWith_fit_iff {row : List Text} {widths : List Nat}
    (h : row.length = widths.length) :
    (List.zipWith fit row widths).map List.length = widths ↔ List.Forall₂ CutsFit row widths := by
  induction row generalizing widths with
  | nil =>
    rw [List.length_eq_zero_iff.mp h.symm]
    simp
  | cons cell row ih =>
    cases widths with
    | nil => cases h
    | cons width widths =>
      rw [List.zipWith_cons_cons, List.map_cons, List.cons.injEq, ih (Nat.succ.inj h),
        length_fit_eq_iff, List.forall₂_cons]

theorem map_length_zipWith_fit {row : List Text} {widths : List Nat}
    (h : List.Forall₂ (fun cell width => cell.length ≤ width) row widths) :
    (List.zipWith fit row widths).map List.length = widths := by
  rw [map_length_zipWith_fit_iff h.length_eq]
  exact h.imp fun cell width hle hlt => absurd hlt (Nat.not_lt.mpr hle)

theorem zipWith_fit {row : List Text} {widths : List Nat}
    (h : List.Forall₂ (fun cell width => cell.length ≤ width) row widths) :
    List.zipWith fit row widths = List.zipWith
      (fun cell width => cell ++ List.replicate (width - cell.length) ' ') row widths := by
  refine List.zipWith_congr _ _ row widths (h.imp fun cell width hcell => ?_)
  rw [fit, if_neg (Nat.not_lt.mpr hcell)]

namespace Grid

variable {g : Grid} {o : TableOptions}

/-- A table of at least one column in which every row has one cell for each, and no cell runs over
several lines. -/
structure Regular (g : Grid) : Prop where
  columns_pos : 1 ≤ g.columns
  length_row : ∀ row ∈ g.rows, row.length = g.columns
  newline_notMem : ∀ row ∈ g.rows, ∀ cell ∈ row, '\n' ∉ cell

def linesOf (g : Grid) (widths : List Nat) (row : List Text) (i : Nat) : List Text :=
  barred (List.zipWith fit row widths) ::
    if g.header = some i then [barred (widths.map (List.replicate · '-'))] else []

theorem rowLines_eq {widths : List Nat} (hw : widths ≠ []) {row : List Text}
    (hr : row.length = widths.length) (i : Nat) :
    g.rowLines widths i row = (g.linesOf widths row i).flatMap (· ++ ['\n']) := by
  have hfields : List.zipWith fit row widths ≠ [] := by
    rw [← List.length_pos_iff, List.length_zipWith, hr, Nat.min_self]
    exact List.length_pos_iff.mpr hw
  have hdashes : widths.map (List.replicate · '-') ≠ [] := List.map_eq_nil_iff.not.mpr hw
  rw [rowLines, linesOf, gridLine_eq hfields, gridLine_eq hdashes, List.flatMap_cons]
  split <;> simp

theorem length_columnWidths (g : Grid) (o : TableOptions) :
    (g.columnWidths o).length = g.columns := by
  rw [columnWidths, List.length_map, List.length_range]

def lines (g : Grid) (o : TableOptions) : List Text :=
  [fence] ++ (g.rows.zipIdx.flatMap fun r => g.linesOf (g.columnWidths o) r.1 r.2) ++ [fence]

theorem render_eq_flatMap_lines (hg : g.Regular) :
    g.render o = (g.lines o).flatMap (· ++ ['\n']) := by
  have hlength := g.length_columnWidths o
  have hw : g.columnWidths o ≠ [] := List.length_pos_iff.mp (hlength ▸ hg.columns_pos)
  have hblock : (g.rows.mapIdx (g.rowLines (g.columnWidths o))).flatten =
      (g.rows.zipIdx.flatMap fun r => g.linesOf (g.columnWidths o) r.1 r.2).flatMap
        (· ++ ['\n']) := by
    rw [List.mapIdx_eq_zipIdx_map, ← List.flatMap_def, List.flatMap_assoc]
    refine List.flatMap_congr fun r hr => rowLines_eq hw ?_ r.2
    exact (hg.length_row r.1 (List.fst_mem_of_mem_zipIdx hr)).trans hlength.symm
  rw [render, lines, hblock]
  simp

theorem newline_notMem_linesOf {row : List Text} (h : ∀ cell ∈ row, '\n' ∉ cell)
    (widths : List Nat) (i : Nat) : ∀ line ∈ g.linesOf widths row i, '\n' ∉ line := by
  have hfields : '\n' ∉ barred (List.zipWith fit row widths) := by
    refine newline_notMem_barred fun field hfield => ?_
    obtain ⟨j, hj⟩ := List.mem_iff_getElem?.mp hfield
    obtain ⟨cell, width, hcell, -, rfl⟩ := List.getElem?_zipWith_eq_some.mp hj
    exact newline_notMem_fit (h cell (List.mem_of_getElem? hcell)) width
  have hdashes : '\n' ∉ barred (widths.map (List.replicate · '-')) := by
    refine newline_notMem_barred fun field hfield hbreak => ?_
    obtain ⟨width, -, rfl⟩ := List.mem_map.mp hfield
    exact absurd (List.eq_of_mem_replicate hbreak) (by decide)
  intro line hline
  rw [linesOf, List.mem_cons] at hline
  rcases hline with rfl | hline
  · exact hfields
  · split at hline
    · rwa [List.mem_singleton.mp hline]
    · cases hline

theorem splitAt_render (hg : g.Regular) :
    Text.splitAt '\n' (g.render o) = g.lines o ++ [[]] := by
  rw [render_eq_flatMap_lines hg]
  refine Text.splitAt_flatMap fun line hline => ?_
  have hfence : '\n' ∉ fence := by decide
  simp only [lines, List.mem_append, List.mem_singleton, List.mem_flatMap] at hline
  rcases hline with (rfl | ⟨r, hr, hline⟩) | rfl
  · exact hfence
  · have hcells := hg.newline_notMem r.1 (List.fst_mem_of_mem_zipIdx hr)
    exact newline_notMem_linesOf hcells _ r.2 line hline
  · exact hfence

/-- Without a limit a column is as wide as the longest of its cells, and not less wide than the least
width. -/
theorem isGreatest_columnWidth (hmax : o.maxColumnWidth = none) (hg : g.Regular) {j : Nat}
    (hj : j < g.columns) :
    IsGreatest {n | n = o.minColumnWidth ∨
      ∃ row ∈ g.rows, ∃ cell, row[j]? = some cell ∧ n = cell.length} (g.columnWidth o j) := by
  have hcell : ∀ row ∈ g.rows, row[j]? = some (row.getD j []) := by
    intro row hrow
    have hlt : j < row.length := (hg.length_row row hrow).symm ▸ hj
    rw [List.getD_eq_getElem?_getD, List.getElem?_eq_getElem hlt, Option.getD_some]
  have hwidest (l : List Nat) : l.foldl max 0 ∈ 0 :: l ∧ ∀ n ∈ 0 :: l, n ≤ l.foldl max 0 :=
    List.max?_eq_some_iff.mp List.max?_cons'
  obtain ⟨hmem, hle⟩ := hwidest (g.rows.map fun row => (row.getD j []).length)
  rw [columnWidth, hmax]
  constructor
  · rcases List.mem_cons.mp hmem with hzero | hmem
    · rw [hzero]
      exact Or.inl (Nat.max_eq_right (Nat.zero_le _))
    · obtain ⟨row, hrow, hlength⟩ := List.mem_map.mp hmem
      rw [← hlength]
      rcases Nat.le_total (row.getD j []).length o.minColumnWidth with h | h
      · exact Or.inl (Nat.max_eq_right h)
      · exact Or.inr ⟨row, hrow, _, hcell row hrow, Nat.max_eq_left h⟩
  · rintro n (rfl | ⟨row, hrow, cell, hget, rfl⟩)
    · exact Nat.le_max_right _ _
    · rw [hcell row hrow, Option.some.injEq] at hget
      have hlength : cell.length ∈ g.rows.map fun row => (row.getD j []).length :=
        List.mem_map.mpr ⟨row, hrow, congrArg List.length hget⟩
      exact Nat.le_trans (hle _ (List.mem_cons_of_mem 0 hlength)) (Nat.le_max_left _ _)

theorem forall₂_length_le (hmax : o.maxColumnWidth = none) (hg : g.Regular) {row : List Text}
    (hrow : row ∈ g.rows) :
    List.Forall₂ (fun cell width => cell.length ≤ width) row (g.columnWidths o) := by
  have hlength := hg.length_row row hrow
  refine List.forall₂_iff_get.mpr ⟨hlength.trans (g.length_columnWidths o).symm, fun j hj hw => ?_⟩
  have hgreatest := isGreatest_columnWidth hmax hg (hlength ▸ hj)
  have hwidth : (g.columnWidths o).get ⟨j, hw⟩ = g.columnWidth o j := by
    simp [columnWidths]
  rw [hwidth]
  exact hgreatest.2 (Or.inr ⟨row, hrow, _, List.getElem?_eq_getElem hj, rfl⟩)

/-- A table without a limit is read back: between the fences stands one line for each row, in order,
and under the header row a line of dashes; every line has a place for each column, as wide as the
longest of its cells, and at the places of a row's line stand its cells, followed by spaces only. -/
theorem splitAt_render_of_no_limit (g : Grid) (o : TableOptions) (hmax : o.maxColumnWidth = none)
    (hg : g.Regular) :
    ∃ (line : List Text → Text) (dashes : Text),
      Text.splitAt '\n' (g.render o) = [fence] ++ (g.rows.zipIdx.flatMap fun r =>
        line r.1 :: if g.header = some r.2 then [dashes] else []) ++ [fence, []] ∧
      (∀ row ∈ g.rows, LaidOut (g.columnWidths o)
        (List.zipWith (fun (cell : Text) width => cell ++ List.replicate (width - cell.length) ' ')
          row (g.columnWidths o)) (line row)) ∧
      LaidOut (g.columnWidths o) ((g.columnWidths o).map (List.replicate · '-')) dashes ∧
      (g.columnWidths o).length = g.columns ∧
      ∀ j width : Nat, (g.columnWidths o)[j]? = some width →
        IsGreatest {n | n = o.minColumnWidth ∨
          ∃ row ∈ g.rows, ∃ cell, row[j]? = some cell ∧ n = cell.length} width := by
  refine ⟨fun row => barred (List.zipWith fit row (g.columnWidths o)),
    barred ((g.columnWidths o).map (List.replicate · '-')), ?_, ?_, laidOut_dashes _,
    g.length_columnWidths o, ?_⟩
  · rw [splitAt_render hg, lines, List.append_assoc]
    rfl
  · intro row hrow
    have hfits := forall₂_length_le hmax hg hrow
    have hlaid := laidOut_barred (List.zipWith fit row (g.columnWidths o))
    rw [map_length_zipWith_fit hfits] at hlaid
    rw [← zipWith_fit hfits]
    exact hlaid
  · intro j width hwidth
    obtain ⟨hj, rfl⟩ := List.getElem?_eq_some_iff.mp hwidth
    have hgreatest := isGreatest_columnWidth hmax hg (g.length_columnWidths o ▸ hj)
    simpa [columnWidths] using hgreatest

/-- Bars, spaces and quoting marks inside of cells, and characters of several bytes, are read back. -/
theorem splitAt_render_of_marks :
    let g : Grid := ⟨[["a | b".toList, ['ñ', '\x60']], [[], [' ', ' ', '|', ' ']]], some 0, 2⟩
    let o : TableOptions := { minColumnWidth := 3 }
    o.maxColumnWidth = none ∧ g.Regular ∧ g.columnWidths o = [5, 4] ∧
      Text.splitAt '\n' (g.render o) = [fence, "| a | b | ñ`   |".toList,
        "| ----- | ---- |".toList, "|       |   |  |".toList, fence, []] ∧
      readFields [5, 4] "| a | b | ñ`   |".toList = ["a | b".toList, "ñ`  ".toList] := by
  intro g o
  have hg : g.Regular := ⟨by decide, by decide, by decide⟩
  have hwidths : g.columnWidths o = [5, 4] := by decide
  have hsplit : Text.splitAt '\n' (g.render o) = [fence, "| a | b | ñ`   |".toList,
      "| ----- | ---- |".toList, "|       |   |  |".toList, fence, []] := by decide +kernel
  obtain ⟨line, dashes, hlines, hlaid, -⟩ := splitAt_render_of_no_limit g o rfl hg
  have hline : line ["a | b".toList, ['ñ', '\x60']] = "| a | b | ñ`   |".toList :=
    (List.cons.inj (List.cons.inj (hlines.symm.trans hsplit)).2).1
  have hread := (hlaid ["a | b".toList, ['ñ', '\x60']] List.mem_cons_self).fields_eq
  rw [hline, hwidths] at hread
  exact ⟨rfl, hg, hwidths, hsplit, hread.trans (by decide +kernel)⟩

end Grid
end ChatMarkup
