import ChatMarkup.Text.Basic
import ChatMarkup.Text.Blank
import ChatMarkup.Text.Numeral
import ChatMarkup.Text.Reader
import ChatMarkup.Text.Utf8
import ChatMarkup.Document.Node
import ChatMarkup.Document.Arena
import ChatMarkup.Document.Basic
import ChatMarkup.Document.Walk
import ChatMarkup.Options
import ChatMarkup.RenderError
import ChatMarkup.Escape
import ChatMarkup.ListNumbering
import ChatMarkup.Table.Grid
import ChatMarkup.Table.Flatten
import ChatMarkup.Latex.Symbols
import ChatMarkup.Latex.Rule
import ChatMarkup.Latex.Normalize
import ChatMarkup.Latex.Prose
import ChatMarkup.Render.Pass
import ChatMarkup.Text.Punctuation
import ChatMarkup.Text.Case
import ChatMarkup.Markdown.EntityNames
import ChatMarkup.Markdown.Characters
import ChatMarkup.Markdown.Entity
import ChatMarkup.Markdown.Line
import ChatMarkup.Markdown.Html
import ChatMarkup.Markdown.Reference
import ChatMarkup.Markdown.Row
import ChatMarkup.Markdown.Block
import ChatMarkup.Markdown.Start
import ChatMarkup.Markdown.Outline
import ChatMarkup.Markdown.Inline
import ChatMarkup.Markdown.Emphasis
import ChatMarkup.Markdown.Autolink
import ChatMarkup.Markdown.Span
import ChatMarkup.Markdown.Reading
import ChatMarkup.Document.Tree
import ChatMarkup.Markdown.Read
import ChatMarkup.Decimal.Shortest
import ChatMarkup.Config.Value
import ChatMarkup.Toml.Quoted
import ChatMarkup.Toml.Number
import ChatMarkup.Toml.Table
import ChatMarkup.Toml.Document
import ChatMarkup.Config.Path
import ChatMarkup.Config.Settings
import ChatMarkup.Config.Load
import ChatMarkup.Cli.Extras
import ChatMarkup.Cli.Arguments
import ChatMarkup.Cli.Help
import ChatMarkup.Cli.Program
import ChatMarkup.Cli.World
import ChatMarkup.Main
import ChatMarkup.Proofs.Document.Order
import ChatMarkup.Proofs.Render.Visits
import ChatMarkup.Proofs.Render.Refusal
import ChatMarkup.Proofs.Text.Occurs
import ChatMarkup.Proofs.Escape.Literal
import ChatMarkup.Proofs.Escape.Bare
import ChatMarkup.Proofs.Render.Markup
import ChatMarkup.Proofs.Latex.Spans
import ChatMarkup.Proofs.Latex.BlockSpan
import ChatMarkup.Proofs.Document.Siblings
import ChatMarkup.Proofs.Render.Calls
import ChatMarkup.Proofs.Render.Effect
import ChatMarkup.Proofs.Render.Rendering
import ChatMarkup.Proofs.Render.Numbering
import ChatMarkup.Proofs.Render.Period
import ChatMarkup.Proofs.Document.Forest
import ChatMarkup.Proofs.Document.Twins
import ChatMarkup.Proofs.Render.Alike
import ChatMarkup.Proofs.Render.Parts
import ChatMarkup.Proofs.Render.ParagraphEnd
import ChatMarkup.Proofs.Render.Renumbering
import ChatMarkup.Proofs.Render.Shown
import ChatMarkup.Proofs.Table.Layout
import ChatMarkup.Proofs.Escape.Shown
import ChatMarkup.Proofs.Latex.Paragraphs
import ChatMarkup.Proofs.Latex.InlineSpan
import ChatMarkup.Proofs.Table.Limit
import ChatMarkup.Proofs.Text.Places
import ChatMarkup.Proofs.Table.LineBreaks
import ChatMarkup.Proofs.Latex.Forms
import ChatMarkup.Proofs.Latex.Contraction
import ChatMarkup.Proofs.Escape.Undone
import ChatMarkup.Proofs.Document.History
import ChatMarkup.Proofs.Document.Traversal
import ChatMarkup.Proofs.Document.Trail
import ChatMarkup.Proofs.Render.ItemLines
import ChatMarkup.Proofs.Table.Rows
import ChatMarkup.Proofs.Config.Merge
import ChatMarkup.Proofs.Config.Keys
import ChatMarkup.Proofs.Cli.Files
import ChatMarkup.Proofs.Cli.Stages
import ChatMarkup.Proofs.Cli.Parameters
import ChatMarkup.Proofs.Cli.Precedence
import ChatMarkup.Proofs.Escape.Squeezed
import ChatMarkup.Proofs.Escape.Word
import ChatMarkup.Proofs.Latex.LongestMatch
import ChatMarkup.Proofs.Lists.History
import ChatMarkup.Proofs.Cli.Splitting
import ChatMarkup.Proofs.Cli.BareInput
import ChatMarkup.Proofs.Latex.Leftmost
