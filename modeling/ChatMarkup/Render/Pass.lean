import ChatMarkup.RenderError
import ChatMarkup.Options
import ChatMarkup.ListNumbering
import ChatMarkup.Document.Walk
import ChatMarkup.Table.Flatten
import ChatMarkup.Latex.Normalize

namespace ChatMarkup

/-- The state of a rendering: the output, the lists around the current node, the last run of text,
the bytes of the last write, and the tables rendered so far. -/
structure Pass (d : Document) where
  out : String := ""
  numbering : ListNumbering := {}
  lastText : Text := []
  lastWrite : Nat := 0
  rendered : List d.Id := []

namespace Pass

variable {d : Document}

instance : Inhabited (Pass d) := ⟨{}⟩

/-- Appends to the output and notes how much was written, also when that is nothing. -/
def write (p : Pass d) (t : Text) : Pass d :=
  { p with out := p.out ++ String.ofList t, lastWrite := Text.utf8Length t }

theorem out_write (p : Pass d) (t : Text) : (p.write t).out.toList = p.out.toList ++ t := by
  simp [write]

/-- Whether a node lies below a table that has been rendered. -/
def insideRendered (p : Pass d) (id : d.Id) : Bool :=
  (d.ancestors id).any p.rendered.contains

/-- Writes a run of text; inside a list a lone line break is dropped. -/
def text (p : Pass d) (literal : Text) : Pass d :=
  let escaped := escapeRun literal p.lastText
  let p := { p with lastText := literal }
  if p.numbering.inList && escaped == ['\n'] then p
  else
    let clean := collapseWhitespace escaped
    if clean.isEmpty then p else p.write clean

def link (p : Pass d) (destination title : Text) (entering : Bool) : Pass d :=
  if entering then p.write ['[']
  else
    let p := (p.write [']', '(']).write (escapeDestination destination)
    let p := if title.isEmpty then p
      else ((p.write [' ', '\x22']).write title).write ['\x22']
    p.write [')']

/-- The language of a code block: the first field of its info, without a leading period, that is
not empty. -/
def language (info : Text) : Text :=
  let bare : Text → Text
    | '.' :: field => field
    | field => field
  (((Text.fields info).map bare).find? (!·.isEmpty)).getD []

def codeBlock (p : Pass d) (literal info : Text) : Pass d :=
  let p := (p.write ['\n']).write fence
  let name := language info
  let p := if name.isEmpty then p else p.write name
  ((p.write ['\n']).write literal).write (fence ++ ['\n', '\n'])

def heading (p : Pass d) (o : Options) (level : Nat) (literal : Text) (entering : Bool) : Pass d :=
  if entering then
    (((p.write ['*']).write (o.headingMarker level)).write [' ']).write (escapeLiteral literal)
  else (p.write ['*']).write ['\n', '\n']

def list (p : Pass d) (ordered entering : Bool) : Pass d :=
  if entering then { p with numbering := p.numbering.enter ordered }
  else { p with numbering := p.numbering.exit }.write ['\n']

def listItem (p : Pass d) (o : Options) (ordered : Bool) (bullet : Char) : Pass d :=
  let p := p.write (p.numbering.indent o.indentSize)
  if ordered then
    let (n, numbering) := p.numbering.next
    { p with numbering := numbering }.write (Text.ofNat n ++ ['\\', '.', ' '])
  else p.write ['\\', bullet, ' ']

def item? (id : d.Id) : Option d.Id := (d.parent? id).filter fun p => d.kind p == .listItem

/-- Indents the second paragraph of an item, or ends a paragraph if the last write was not
empty. -/
def paragraph (p : Pass d) (id : d.Id) (entering : Bool) : Pass d :=
  if entering then
    match item? id with
    | some item => if (d.children item)[1]? = some id then p.write ['\t'] else p
    | none => p
  else if 0 < p.lastWrite then
    p.write (if (item? id).isSome then ['\n'] else ['\n', '\n'])
  else p

/-- Writes the mark of a quote that stands in the document itself, and the text of the quote. -/
def blockQuote (p : Pass d) (id : d.Id) (literal : Text) : Pass d :=
  let p := if (d.parent? id).any fun parent => d.kind parent == .document then p.write ['>'] else p
  p.write ((escapeLiteral literal).dropWhile (· == ' '))

def formula (o : Options) (literal : Text) : Text :=
  if Latex.detect o.math.minDetectLength literal then Latex.normalize literal else literal

def math (p : Pass d) (o : Options) (literal : Text) : Pass d :=
  ((p.write ['\x60', ' ']).write (escapeLiteral (formula o literal))).write [' ', '\x60']

/-- Writes a formula block as fenced code; one with LaTeX is left out unless blocks are
normalized. -/
def mathBlock (p : Pass d) (o : Options) (literal : Text) : Pass d :=
  if Latex.detect o.math.minDetectLength literal && !o.math.normalizeBlocks then p
  else
    ((p.write (fence ++ ['\n'])).write (escapeLiteral (formula o literal))).write ('\n' :: fence)

def table (p : Pass d) (o : Options) (id : d.Id) : Pass d × Status :=
  if p.rendered.contains id then (p, .goToNext)
  else
    ({ p with rendered := id :: p.rendered }.write (d.renderTable id o.table), .skipChildren)

/-- What is done to a pass step by step. A failure does not undo the steps before it. -/
abbrev Action (d : Document) := ExceptT RenderError (StateM (Pass d))

def mark (o : Options) (id : d.Id) (entering : Bool) : Action d Status := do
  match d.node id with
  | .document | .footnotes | .horizontalRule => pure ()
  | .text literal => modify (·.text literal)
  | .emph => modify (·.write ['_'])
  | .strong => modify (·.write ['*'])
  | .del => modify (·.write ['~'])
  | .link destination title => modify (·.link destination title entering)
  | .image destination title => modify (·.link destination title entering)
  | .code literal =>
    modify (·.write ['\x60'])
    modify (·.write literal)
    modify (·.write ['\x60'])
  | .codeBlock literal info => modify (·.codeBlock literal info)
  | .heading level literal => modify (·.heading o level literal entering)
  | .list ordered => modify (·.list ordered entering)
  | .listItem ordered bullet => if entering then modify (·.listItem o ordered bullet)
  | .paragraph => modify (·.paragraph id entering)
  | .blockQuote literal => if entering then modify (·.blockQuote id literal)
  | .htmlSpan literal => modify (·.write literal)
  | .htmlBlock literal =>
    modify (·.write ['\n'])
    modify (·.write literal)
    modify (·.write ['\n', '\n'])
  | .table => return ← modifyGet fun p => (p.table o id).swap
  | .tableHeader | .tableBody | .tableFooter | .tableRow | .tableCell _ => pure ()
  | .math literal => modify (·.math o literal)
  | .mathBlock literal => modify (·.mathBlock o literal)
  | .softBreak | .hardBreak | .crossReference | .citation | .caption | .captionFigure | .aside
  | .documentMatter | .callout | .index | .subscript | .superscript =>
    throw (.unsupported (d.kind id))
  return .goToNext

/-- A call on a renderer. Below a rendered table nothing happens. -/
def call (o : Options) (id : d.Id) (entering : Bool) : Action d Status := do
  if (← get).insideRendered id then
    return .goToNext
  mark o id entering

/-- What a walk takes from a call; a failure ends the walk and with it the pass. -/
def outcome : Except RenderError Status × Pass d → Except RenderError (Pass d × Status)
  | (.ok status, p) => .ok (p, status)
  | (.error e, _) => .error e

def visit (o : Options) (id : d.Id) (entering : Bool) (p : Pass d) :
    Except RenderError (Pass d × Status) :=
  outcome ((call o id entering).run.run p)

theorem run_call_eq (o : Options) (id : d.Id) (entering : Bool) (p : Pass d) :
    (call o id entering).run.run p =
      if p.insideRendered id then (.ok .goToNext, p) else (mark o id entering).run.run p := by
  cases h : p.insideRendered id with
  | true =>
    change (if p.insideRendered id = true then _ else mark o id entering :
      Action d Status).run.run p = _
    rw [if_pos h, if_pos rfl]
    rfl
  | false =>
    change (if p.insideRendered id = true then _ else mark o id entering :
      Action d Status).run.run p = _
    rw [if_neg (by simp [h]), if_neg (by simp)]

def finish (o : Options) (p : Pass d) : Except RenderError String :=
  (d.walk (visit o) p).map (·.out)

end Pass

def render (d : Document) (o : Options) : Except RenderError String := ({} : Pass d).finish o

end ChatMarkup
