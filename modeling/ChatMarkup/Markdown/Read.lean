import ChatMarkup.Document.Tree
import ChatMarkup.Markdown.Outline
import ChatMarkup.Markdown.Reading

namespace ChatMarkup.Markdown

def Style.node : Style → Node
  | emph => .emph
  | strong => .strong
  | del => .del
  | superscript => .superscript

mutual

/-- The tree of a part of a text; a line end without a break is text. -/
def Inline.tree : Inline → Tree
  | .text literal => .node (.text literal) []
  | .softBreak => .node (.text ['\n']) []
  | .hardBreak => .node .hardBreak []
  | .code literal => .node (.code literal) []
  | .html literal => .node (.htmlSpan literal) []
  | .math true literal => .node (.mathBlock literal) []
  | .math false literal => .node (.math literal) []
  | .styled style content => .node style.node (Inline.trees content)
  | .link target content => .node (.link target.destination target.title) (Inline.trees content)
  | .image target content => .node (.image target.destination target.title) (Inline.trees content)

def Inline.trees : List Inline → List Tree
  | [] => []
  | i :: l => i.tree :: Inline.trees l

end

def contentTrees (definitions : Definitions) (content : Text) : List Tree :=
  Inline.trees (Inline.ofContent definitions content)

def rowTree (definitions : Definitions) (cells : List Text) : Tree :=
  .node .tableRow (cells.map fun c => .node (.tableCell []) (contentTrees definitions c))

def tableTree (definitions : Definitions) (header : List Text) (rows : List (List Text)) : Tree :=
  let body := if rows.isEmpty then [] else [.node .tableBody (rows.map (rowTree definitions))]
  .node .table (.node .tableHeader [rowTree definitions header] :: body)

mutual

def Block.tree (definitions : Definitions) : Block → Tree
  | .paragraph content => .node .paragraph (contentTrees definitions content)
  | .heading level content => .node (.heading level []) (contentTrees definitions content)
  | .code info literal => .node (.codeBlock literal info) []
  | .html literal => .node (.htmlBlock literal) []
  | .thematicBreak => .node .horizontalRule []
  | .quote blocks => .node (.blockQuote []) (Block.trees definitions blocks)
  | .list marker items => .node (.list marker.ordered) (Block.itemTrees definitions marker items)
  | .table header rows => tableTree definitions header rows

def Block.trees (definitions : Definitions) : List Block → List Tree
  | [] => []
  | b :: blocks => b.tree definitions :: Block.trees definitions blocks

def Block.itemTrees (definitions : Definitions) (marker : Marker) : List (List Block) → List Tree
  | [] => []
  | blocks :: items =>
    .node (.listItem marker.ordered marker.bullet) (Block.trees definitions blocks) ::
      Block.itemTrees definitions marker items

end

def readTrees (source : Text) : List Tree :=
  let o := Outline.ofSource source
  Block.trees o.definitions o.blocks

end ChatMarkup.Markdown

namespace ChatMarkup

def Document.ofMarkdown (source : Text) : Document := .ofTrees (Markdown.readTrees source)

end ChatMarkup
