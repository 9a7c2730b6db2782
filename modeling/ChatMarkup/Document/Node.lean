import ChatMarkup.Text.Basic

namespace ChatMarkup

inductive Kind where
  | document | text | emph | strong | del | link | image | code | codeBlock | heading | list
  | listItem | paragraph | blockQuote | horizontalRule | table | tableHeader | tableBody
  | tableFooter | tableRow | tableCell | math | mathBlock | htmlSpan | htmlBlock | footnotes
  | softBreak | hardBreak | crossReference | citation | caption | captionFigure | aside
  | documentMatter | callout | index | subscript | superscript
  deriving DecidableEq, Repr, Inhabited

namespace Kind

def all : List Kind :=
  [document, text, emph, strong, del, link, image, code, codeBlock, heading, list, listItem,
    paragraph, blockQuote, horizontalRule, table, tableHeader, tableBody, tableFooter, tableRow,
    tableCell, math, mathBlock, htmlSpan, htmlBlock, footnotes, softBreak, hardBreak,
    crossReference, citation, caption, captionFigure, aside, documentMatter, callout, index,
    subscript, superscript]

def name : Kind → String
  | document => "Document"
  | text => "Text"
  | emph => "Emph"
  | strong => "Strong"
  | del => "Del"
  | link => "Link"
  | image => "Image"
  | code => "Code"
  | codeBlock => "CodeBlock"
  | heading => "Heading"
  | list => "List"
  | listItem => "ListItem"
  | paragraph => "Paragraph"
  | blockQuote => "BlockQuote"
  | horizontalRule => "HorizontalRule"
  | table => "Table"
  | tableHeader => "TableHeader"
  | tableBody => "TableBody"
  | tableFooter => "TableFooter"
  | tableRow => "TableRow"
  | tableCell => "TableCell"
  | math => "Math"
  | mathBlock => "MathBlock"
  | htmlSpan => "HTMLSpan"
  | htmlBlock => "HTMLBlock"
  | footnotes => "Footnotes"
  | softBreak => "Softbreak"
  | hardBreak => "Hardbreak"
  | crossReference => "CrossReference"
  | citation => "Citation"
  | caption => "Caption"
  | captionFigure => "CaptionFigure"
  | aside => "Aside"
  | documentMatter => "DocumentMatter"
  | callout => "Callout"
  | index => "Index"
  | subscript => "Subscript"
  | superscript => "Superscript"

def ofName? (s : String) : Option Kind := all.find? (·.name == s)

/-- Leaves hold no visited children: a walk sees them once. -/
def isLeaf : Kind → Bool
  | text | code | codeBlock | horizontalRule | math | mathBlock | htmlSpan | htmlBlock
  | softBreak | hardBreak => true
  | _ => false

/-- The kinds that have no form in chat markup and stop a rendering. -/
def isRefused : Kind → Bool
  | softBreak | hardBreak | crossReference | citation | caption | captionFigure | aside
  | documentMatter | callout | index | subscript | superscript => true
  | _ => false

end Kind

/-- A node of a document with its own content; its children are kept by the document. -/
inductive Node where
  | document
  | text (literal : Text)
  | emph
  | strong
  | del
  | link (destination title : Text)
  | image (destination title : Text)
  | code (literal : Text)
  | codeBlock (literal info : Text)
  | heading (level : Nat) (literal : Text)
  | list (ordered : Bool)
  | listItem (ordered : Bool) (bullet : Char)
  | paragraph
  | blockQuote (literal : Text)
  | horizontalRule
  | table
  | tableHeader
  | tableBody
  | tableFooter
  | tableRow
  | tableCell (literal : Text)
  | math (literal : Text)
  | mathBlock (literal : Text)
  | htmlSpan (literal : Text)
  | htmlBlock (literal : Text)
  | footnotes
  | softBreak
  | hardBreak
  | crossReference
  | citation
  | caption
  | captionFigure
  | aside
  | documentMatter
  | callout
  | index
  | subscript
  | superscript
  deriving DecidableEq, Repr, Inhabited

def Node.kind : Node → Kind
  | document => .document
  | text _ => .text
  | emph => .emph
  | strong => .strong
  | del => .del
  | link _ _ => .link
  | image _ _ => .image
  | code _ => .code
  | codeBlock _ _ => .codeBlock
  | heading _ _ => .heading
  | list _ => .list
  | listItem _ _ => .listItem
  | paragraph => .paragraph
  | blockQuote _ => .blockQuote
  | horizontalRule => .horizontalRule
  | table => .table
  | tableHeader => .tableHeader
  | tableBody => .tableBody
  | tableFooter => .tableFooter
  | tableRow => .tableRow
  | tableCell _ => .tableCell
  | math _ => .math
  | mathBlock _ => .mathBlock
  | htmlSpan _ => .htmlSpan
  | htmlBlock _ => .htmlBlock
  | footnotes => .footnotes
  | softBreak => .softBreak
  | hardBreak => .hardBreak
  | crossReference => .crossReference
  | citation => .citation
  | caption => .caption
  | captionFigure => .captionFigure
  | aside => .aside
  | documentMatter => .documentMatter
  | callout => .callout
  | index => .index
  | subscript => .subscript
  | superscript => .superscript

end ChatMarkup
