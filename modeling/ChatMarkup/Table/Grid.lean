import ChatMarkup.Options

namespace ChatMarkup

structure Grid where
  rows : List (List Text)
  header : Option Nat
  columns : Nat
  deriving DecidableEq, Repr, Inhabited

def ellipsis : Text := ['.', '.', '.']

def fence : Text := ['\x60', '\x60', '\x60']

/-- Pads a cell with spaces to the width, or shortens it with an ellipsis. -/
def fit (content : Text) (width : Nat) : Text :=
  if width < content.length then content.take (width - ellipsis.length) ++ ellipsis
  else content ++ List.replicate (width - content.length) ' '

theorem length_fit_of_le {content : Text} {width : Nat} (h : content.length ≤ width) :
    (fit content width).length = width := by
  simp only [fit, Nat.not_lt.mpr h, if_false, List.length_append, List.length_replicate]
  omega

def gridLine (fields : List Text) : Text :=
  ['|', ' '] ++ Text.join [' ', '|', ' '] fields ++ [' ', '|', '\n']

namespace Grid

/-- The width of a column: its longest cell, at least the least width, and at most the greatest
width unless that is below the least. -/
def columnWidth (g : Grid) (o : TableOptions) (j : Nat) : Nat :=
  let widest := (g.rows.map fun row => (row.getD j []).length).foldl max 0
  let width := max widest o.minColumnWidth
  match o.maxColumnWidth with
  | some limit => min width (max limit o.minColumnWidth)
  | none => width

def columnWidths (g : Grid) (o : TableOptions) : List Nat :=
  (List.range g.columns).map (g.columnWidth o)

/-- The line of a row and, after the header row, the line of dashes. -/
def rowLines (g : Grid) (widths : List Nat) (i : Nat) (row : List Text) : Text :=
  gridLine (List.zipWith fit row widths) ++
    if g.header = some i then gridLine (widths.map (List.replicate · '-')) else []

def render (g : Grid) (o : TableOptions) : Text :=
  let widths := g.columnWidths o
  fence ++ ['\n'] ++ (g.rows.mapIdx (g.rowLines widths)).flatten ++ fence ++ ['\n']

end Grid
end ChatMarkup
