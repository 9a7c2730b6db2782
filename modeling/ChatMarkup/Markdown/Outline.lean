import ChatMarkup.Markdown.Start
import ChatMarkup.Markdown.Reference
import ChatMarkup.Markdown.Row

namespace ChatMarkup.Markdown

/-- A block that is open and holds lines, the newest one first. A paragraph also says whether its
last line has been looked at as the header of a table in vain. -/
inductive Leaf where
  | paragraph (lines : List Text) (tableTried : Bool)
  | fenced (mark : Char) (length offset : Nat) (info : Text) (lines : List Text)
  | indented (lines : List Text)
  | html (kind : Html.BlockKind) (lines : List Text)
  | table (header : List Text) (rows : List (List Text))
  deriving Repr, Inhabited

structure Outline where
  containers : Containers := .root []
  leaf : Option Leaf := none
  definitions : Definitions := []
  deriving Repr, Inhabited

namespace Outline

def content (lines : List Text) : Text := lines.reverse.flatten

def isBlankLine (line : Text) : Bool := line.all fun c => isSpaceOrTab c || c == '\n'

def addBlock (o : Outline) (b : Block) : Outline :=
  { o with containers := o.containers.push [b], leaf := none }

/-- Finishes the block that is open. A paragraph gives up the definitions at its front, and vanishes
if it is nothing else; code without a fence gives up the blank lines at its end. -/
def closeLeaf (o : Outline) : Outline :=
  match o.leaf with
  | none => o
  | some (.paragraph lines _) =>
    let (definitions, t) := o.definitions.readFront (content lines)
    let o := { o with leaf := none, definitions := definitions }
    if t.isEmpty then o else o.addBlock (.paragraph t)
  | some (.fenced _ _ _ info lines) =>
    o.addBlock (.code (unescape (trim (Entity.expand info))) (content lines))
  | some (.indented lines) => o.addBlock (.code [] (content (lines.dropWhile isBlankLine)))
  | some (.html _ lines) => o.addBlock (.html (content lines))
  | some (.table header rows) => o.addBlock (.table header rows.reverse)

def closeTo (limit : Nat) (o : Outline) : Outline :=
  let o := o.closeLeaf
  { o with containers := o.containers.closeTo limit }

def openLeaf (o : Outline) (leaf : Leaf) : Outline :=
  { o with containers := o.containers.endList, leaf := some leaf }

def addHtml (o : Outline) (kind : Html.BlockKind) (lines : List Text) (c : Cursor) : Outline :=
  let o := o.openLeaf (.html kind (c.remainder :: lines))
  if kind.isLastLine c.front then o.closeLeaf else o

def frontLine (c : Cursor) : Text := c.front ++ ['\n']

/-- Reads what is left of a line where no block is open in the innermost container; `starts`
containers have been started on the line. -/
def place (o : Outline) (starts : Nat) (c : Cursor) : Outline :=
  match _h : Start.read? starts c with
  | some (.quote after) => place { o with containers := o.containers.openQuote } (starts + 1) after
  | some (.item marker indent _ after) =>
    place { o with containers := o.containers.openItem marker indent } (starts + 1) after
  | some (.heading level content) => o.addBlock (.heading level content)
  | some (.fence mark length offset info) => o.openLeaf (.fenced mark length offset info [])
  | some (.html kind) => o.addHtml kind [] c
  | some .thematicBreak => o.addBlock .thematicBreak
  | some (.code after) => o.openLeaf (.indented [after.remainder])
  | none => if c.isBlank then o else o.openLeaf (.paragraph [frontLine c] false)
termination_by c.rest.length
decreasing_by
  · exact Start.length_after_lt _h rfl
  · exact Start.length_after_lt _h rfl

def underline? (c : Cursor) : Option Nat :=
  let t := Text.dropEndWhile isSpaceOrTab c.front
  if c.isIndented || t.isEmpty then none
  else if t.all (· == '=') then some 1
  else if t.all (· == '-') then some 2
  else none

/-- Makes a heading of a paragraph; if it is nothing but definitions, its underline becomes its
text. -/
def addUnderline (o : Outline) (lines : List Text) (level : Nat) (c : Cursor) : Outline :=
  let (definitions, t) := o.definitions.readFront (content lines)
  let o := { o with leaf := none, definitions := definitions }
  if t.isEmpty then o.openLeaf (.paragraph [frontLine c] false) else o.addBlock (.heading level t)

/-- Makes a table of the last line of a paragraph if the new line parts as many cells; the lines
before it stay a paragraph. -/
def table? (o : Outline) (lines : List Text) (c : Cursor) : Option Outline :=
  match lines with
  | last :: earlier =>
    let header := Row.cells (Text.dropEndWhile (· == '\n') last)
    if header.length = (Row.cells c.front).length then
      let o := if earlier.isEmpty then o
        else o.addBlock (.paragraph (trim (Row.unescapePipes (content earlier))))
      some (o.openLeaf (.table header []))
    else none
  | [] => none

def addToParagraph (o : Outline) (lines : List Text) (tableTried : Bool) (c : Cursor) : Outline :=
  match underline? c with
  | some level => o.addUnderline lines level c
  | none =>
    if (Start.read? 0 c).any Start.interruptsParagraph then o.closeLeaf.place 0 c
    else
      let goOn (tried : Bool) : Outline :=
        { o with leaf := some (.paragraph (frontLine c :: lines) tried) }
      if tableTried || c.isIndented || !Row.isDelimiter c.front then goOn tableTried
      else (o.table? lines c).getD (goOn true)

/-- A row of a table with as many cells as the header. -/
def fitRow (columns : Nat) (cells : List Text) : List Text :=
  (cells ++ List.replicate columns []).take columns

/-- Reads a line that the open block does not go on with. A paragraph goes on also where some of
its containers do not, unless a block starts. -/
def addElsewhere (o : Outline) (reached : Nat) (c : Cursor) : Outline :=
  match o.leaf with
  | some (.paragraph lines tableTried) =>
    if c.isBlank || (Start.read? 0 c).any (!·.isCode) then (o.closeTo reached).place 0 c
    else { o with leaf := some (.paragraph (c.remainder :: lines) tableTried) }
  | _ => (o.closeTo reached).place 0 c

def closesFence (mark : Char) (length : Nat) (c : Cursor) : Bool :=
  let run := c.front.takeWhile (· == mark)
  !c.isIndented && length ≤ run.length && (c.front.drop run.length).all isSpaceOrTab

def addToLeaf (o : Outline) (reached : Nat) (c : Cursor) : Leaf → Outline
  | .paragraph lines tableTried =>
    if c.isBlank then o.addElsewhere reached c else o.addToParagraph lines tableTried c
  | .fenced mark length offset info lines =>
    if closesFence mark length c then o.closeLeaf
    else
      let line := (c.skipSpaces offset).remainder
      { o with leaf := some (.fenced mark length offset info (line :: lines)) }
  | .indented lines =>
    if c.isIndented then
      { o with leaf := some (.indented ((c.skipColumns codeIndent).remainder :: lines)) }
    else if c.isBlank then
      { o with leaf := some (.indented (c.skipIndent.remainder :: lines)) }
    else o.addElsewhere reached c
  | .html kind lines =>
    if c.isBlank && kind.endsAtBlank then o.addElsewhere reached c else o.addHtml kind lines c
  | .table header rows =>
    let cells := Row.cells c.front
    if cells.isEmpty || (Start.read? 0 c).isSome then o.addElsewhere reached c
    else { o with leaf := some (.table header (fitRow header.length cells :: rows)) }

def addLine (o : Outline) (line : Text) : Outline :=
  let (reached, c) := o.containers.reach o.leaf.isSome { rest := line }
  match o.leaf with
  | some leaf =>
    if reached < o.containers.depth then o.addElsewhere reached c else o.addToLeaf reached c leaf
  | none => o.addElsewhere reached c

def ofSource (source : Text) : Outline := ((lines source).foldl addLine {}).closeTo 0

def blocks (o : Outline) : List Block := o.containers.blocks

end Outline
end ChatMarkup.Markdown
