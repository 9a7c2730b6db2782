import ChatMarkup.Markdown.Line

namespace ChatMarkup.Markdown

/-- The kind of a list: items of one list have equal signs, a bullet or what follows a number. -/
structure Marker where
  ordered : Bool
  sign : Char
  deriving DecidableEq, Repr, Inhabited

/-- The bullet of an item; a numbered item has the null character. -/
def Marker.bullet (m : Marker) : Char := if m.ordered then '\x00' else m.sign

/-- The blocks of a source; paragraphs, headings and cells hold text that has still to be read. -/
inductive Block where
  | paragraph (content : Text)
  | heading (level : Nat) (content : Text)
  | code (info literal : Text)
  | html (literal : Text)
  | thematicBreak
  | quote (blocks : List Block)
  | list (marker : Marker) (items : List (List Block))
  | table (header : List Text) (rows : List (List Text))
  deriving Repr, Inhabited

/-- The containers that are open, each with the finished blocks in it, the newest first. A list is
open with its last item or without one. -/
inductive Containers where
  | root (done : List Block)
  | quote (outer : Containers) (done : List Block)
  | list (outer : Containers) (marker : Marker) (items : List (List Block))
  | item (outer : Containers) (marker : Marker) (items : List (List Block)) (indent : Nat)
      (done : List Block)
  deriving Repr, Inhabited

namespace Containers

/-- How many containers are open; a list and its item count as two. -/
def depth : Containers → Nat
  | root _ => 0
  | quote outer _ => outer.depth + 1
  | list outer _ _ => outer.depth + 1
  | item outer _ _ _ _ => outer.depth + 2

/-- Adds finished blocks, the newest first, to the innermost container; a list holds nothing but
items and is finished by any other block. -/
def push (blocks : List Block) : Containers → Containers
  | root done => root (blocks ++ done)
  | quote outer done => quote outer (blocks ++ done)
  | list outer marker items => outer.push (blocks ++ [.list marker items.reverse])
  | item outer marker items indent done => item outer marker items indent (blocks ++ done)

theorem depth_push_le (cs : Containers) (blocks : List Block) :
    (cs.push blocks).depth ≤ cs.depth := by
  induction cs generalizing blocks with
  | root => exact Nat.le_refl _
  | quote => exact Nat.le_refl _
  | list outer _ _ ih => exact Nat.le_succ_of_le (ih _)
  | item => exact Nat.le_refl _

def close : Containers → Containers
  | root done => root done
  | quote outer done => outer.push [.quote done.reverse]
  | list outer marker items => outer.push [.list marker items.reverse]
  | item outer marker items _ done => list outer marker (done.reverse :: items)

theorem depth_close_lt {cs : Containers} (h : cs.depth ≠ 0) : cs.close.depth < cs.depth := by
  cases cs with
  | root => exact absurd rfl h
  | quote outer _ => exact Nat.lt_succ_of_le (outer.depth_push_le _)
  | list outer _ _ => exact Nat.lt_succ_of_le (outer.depth_push_le _)
  | item => exact Nat.lt_succ_self _

def closeTo (limit : Nat) (cs : Containers) : Containers :=
  if limit < cs.depth then closeTo limit cs.close else cs
termination_by cs.depth
decreasing_by exact depth_close_lt (by omega)

def blocks (cs : Containers) : List Block :=
  match cs.closeTo 0 with
  | root done => done.reverse
  | _ => []

/-- Finishes a list that is open without an item, so that other blocks can follow it. -/
def endList : Containers → Containers
  | list outer marker items => outer.push [.list marker items.reverse]
  | cs => cs

def openQuote (cs : Containers) : Containers := quote cs.endList []

/-- Opens an item, in the list at this place if that is one of the same kind. -/
def openItem (marker : Marker) (indent : Nat) (cs : Containers) : Containers :=
  match cs with
  | list outer m items =>
    if m = marker then item outer marker items indent []
    else item cs.endList marker [] indent []
  | _ => item cs marker [] indent []

def quoteMark? (c : Cursor) : Option Cursor :=
  if c.isIndented then none
  else
    match c.front with
    | '>' :: _ => some c.skipIndent.next.skipSpace
    | _ => none

/-- Reads the indentation of an item. A blank line belongs to an item that holds something. -/
def itemIndent? (indent : Nat) (hasContent : Bool) (c : Cursor) : Option Cursor :=
  if indent ≤ c.indent then some (c.skipColumns indent)
  else if c.isBlank && hasContent then some c.skipIndent
  else none

/-- How many of the containers a line goes on with, and where their part of the line ends.
`holdsOpen` says whether the innermost container holds a block that is still open. -/
def reach (holdsOpen : Bool) : Containers → Cursor → Nat × Cursor
  | root _, c => (0, c)
  | quote outer _, c =>
    let (n, c) := outer.reach true c
    if n < outer.depth then (n, c)
    else
      match quoteMark? c with
      | some c => (n + 1, c)
      | none => (n, c)
  | list outer _ _, c =>
    let (n, c) := outer.reach true c
    if n < outer.depth then (n, c) else (n + 1, c)
  | item outer _ _ indent done, c =>
    let (n, c) := outer.reach true c
    if n < outer.depth then (n, c)
    else
      match itemIndent? indent (holdsOpen || !done.isEmpty) c with
      | some c => (n + 2, c)
      | none => (n + 1, c)

end Containers
end ChatMarkup.Markdown
