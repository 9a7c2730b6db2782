import ChatMarkup.Document.Basic
import ChatMarkup.Escape
import ChatMarkup.Table.Grid

namespace ChatMarkup
namespace Document

variable (d : Document)

def rowsOf (part : d.Id) : List d.Id := (d.children part).filter (d.node · = .tableRow)

def sectionRows (table : d.Id) (kind : Node) : List d.Id :=
  ((d.children table).filter (d.node · = kind)).flatMap d.rowsOf

def bodyRows (table : d.Id) : List d.Id :=
  (d.children table).flatMap fun child =>
    match d.node child with
    | .tableBody => d.rowsOf child
    | .tableRow => [child]
    | _ => []

def startsWithRow (table : d.Id) : Bool :=
  match d.children table with
  | [] => false
  | child :: _ => d.node child = .tableRow

/-- The rows of a table, those of headers first and those of footers last, and the number of the
header row: a table has one if it has header rows or starts with a row of its own. -/
def collectRows (table : d.Id) : List d.Id × Option Nat :=
  let head := d.sectionRows table .tableHeader
  let rows := head ++ d.bodyRows table ++ d.sectionRows table .tableFooter
  (rows, if !head.isEmpty || d.startsWithRow table then some 0 else none)

/-- The plain text of a node. -/
def cellText (id : d.Id) : Text :=
  match d.node id with
  | .text literal => collapseWhitespace (literal.filter (· ≠ '\r'))
  | .code literal => literal.map fun c => if c = '\n' then ' ' else c
  | .image _ _ => "[Image]".toList
  | .math literal => literal
  | .mathBlock literal => literal
  | _ => (d.children id).attach.flatMap fun c => cellText c.val
termination_by d.size - id.val
decreasing_by
  have := d.val_lt_of_mem_children c.property
  have := c.val.isLt
  omega

/-- The nodes whose plain text is not that of their children. -/
def hasOwnText : Node → Bool
  | .text _ | .code _ | .image _ _ | .math _ | .mathBlock _ => true
  | _ => false

theorem cellText_eq {id : d.Id} (h : hasOwnText (d.node id) = false) :
    d.cellText id = (d.children id).flatMap d.cellText := by
  rw [cellText]
  split <;> simp_all [hasOwnText]

/-- The text of the cell with this number in a row: empty where there is no cell. -/
def gridCell (cells : List d.Id) (j : Nat) : Text :=
  match cells[j]? with
  | some cell =>
    match d.node cell with
    | .tableCell _ => Text.trim ((d.children cell).flatMap d.cellText)
    | _ => []
  | none => []

/-- The grid of a table, all rows as long as the longest; a table without cells has none. -/
def grid? (table : d.Id) : Option Grid :=
  let (rows, header) := d.collectRows table
  let columns := (rows.map fun row => (d.children row).length).foldl max 0
  if rows.isEmpty || columns == 0 then none
  else
    some {
      rows := rows.map fun row =>
        let cells := d.children row
        (List.range columns).map (d.gridCell cells)
      header := header
      columns := columns }

/-- A table in chat markup; one without cells has no text. -/
def renderTable (table : d.Id) (o : TableOptions) : Text :=
  match d.grid? table with
  | some grid => grid.render o
  | none => []

theorem renderTable_eq_nil_iff {table : d.Id} {o : TableOptions} :
    d.renderTable table o = [] ↔ d.grid? table = none := by
  rw [renderTable]
  cases d.grid? table with
  | none => simp
  | some grid => simp [Grid.render, fence]

end Document
end ChatMarkup
