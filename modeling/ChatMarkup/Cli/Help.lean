import ChatMarkup.Cli.Arguments

namespace ChatMarkup.Cli

/-- What can stand among arguments, and what it is for. -/
structure HelpItem where
  form : String
  about : String
  inFull? : Option String := none
  deriving DecidableEq, Repr, Inhabited

namespace HelpItem

def config : HelpItem := ⟨"    --config <PATH>", "Path to a tgmd.toml configuration file", none⟩

def input : HelpItem := ⟨"<input>", "Input file path, or - for stdin", none⟩

def output : HelpItem := ⟨"-o, --output <output>", "Output file path (defaults to stdout)", none⟩

def topics : HelpItem := ⟨"[COMMAND]...", "Print help for the subcommand(s)", none⟩

def version : HelpItem := ⟨"-V, --version", "Print version", none⟩

def help : HelpItem := ⟨"-h, --help", "Print help", none⟩

/-- The option for help where there is a short and a full form of it. -/
def eitherHelp : HelpItem :=
  ⟨"-h, --help", "Print help (see more with '--help')",
    some "Print help (see a summary with '-h')"⟩

def row (width : Nat) (item : HelpItem) : Text :=
  let form := item.form.toList
  [' ', ' '] ++ form ++ List.replicate (width + 2 - form.length) ' ' ++ item.about.toList

def block (item : HelpItem) : Text :=
  [' ', ' '] ++ item.form.toList ++ '\n' :: List.replicate 10 ' ' ++
    (item.inFull?.getD item.about).toList

def rows (items : List HelpItem) : Text :=
  let width := (items.map fun item => item.form.length).foldl max 0
  Text.join ['\n'] (items.map (row width))

def blocks (items : List HelpItem) : Text := Text.join ['\n', '\n'] (items.map block)

end HelpItem

structure HelpPage where
  about : String
  inFull? : Option String := none
  usage : String
  commands : List HelpItem := []
  arguments : List HelpItem := []
  options : List HelpItem := []
  deriving DecidableEq, Repr, Inhabited

namespace HelpPage

def lines (ls : List String) : String := String.intercalate "\n" ls

def convert : HelpPage where
  about := "Convert Markdown to MarkdownV2 (default command)"
  inFull? := some (lines [
    "Render a Markdown document as Telegram MarkdownV2.",
    "",
    "Reserved characters are escaped, lists are numbered and indented,",
    "tables become monospace blocks and LaTeX math is approximated",
    "with Unicode.",
    "",
    "Unsupported constructs (hard line breaks, superscript, ...) abort the",
    "conversion with an error.",
    "",
    "Examples:",
    "  tgmd convert notes.md                 # Convert to stdout",
    "  tgmd convert notes.md -o out.txt      # Convert to a file",
    "  tgmd notes.md                         # 'convert' is optional"])
  usage := "tgmd convert [OPTIONS] <input>"
  arguments := [.input]
  options := [.config, .output, .eitherHelp]

def latex : HelpPage where
  about := "Rewrite LaTeX spans in plain text"
  inFull? := some (lines [
    "Find \\(...\\) and \\[...\\] spans in plain text and replace the ones",
    "containing LaTeX with Unicode code spans and code blocks.",
    "",
    "Everything outside those spans is left as is."])
  usage := "tgmd latex [OPTIONS] <input>"
  arguments := [.input]
  options := [.config, .output, .eitherHelp]

def symbols : HelpPage where
  about := "Print the LaTeX symbol table"
  usage := "tgmd symbols [OPTIONS]"
  options := [.config, .help]

def help : HelpPage where
  about := "Print this message or the help of the given subcommand(s)"
  usage := "tgmd help [COMMAND]..."
  arguments := [.topics]

def program : HelpPage where
  about := "Convert Markdown to Telegram MarkdownV2"
  inFull? := some (lines [
    "tgmd renders Markdown as Telegram MarkdownV2 text.",
    "",
    "Commands:",
    "  - convert: Markdown to MarkdownV2 (default)",
    "  - latex:   Rewrite LaTeX spans in plain text as Unicode code spans",
    "  - symbols: Print the LaTeX symbol table",
    "",
    "Extra Parameters:",
    "  Use --extra-<name> [value] to override tgmd.toml settings.",
    "  Boolean flags can omit the value (defaults to 'true').",
    "",
    "Examples:",
    "  tgmd notes.md                              # Convert to stdout",
    "  tgmd notes.md -o notes.txt                 # Convert to a file",
    "  cat notes.md | tgmd -                      # Read from stdin",
    "  tgmd notes.md --extra-normalize-math       # Keep block math as Unicode"])
  usage := "tgmd [OPTIONS] [COMMAND]"
  commands := [⟨"convert", convert.about, none⟩, ⟨"latex", latex.about, none⟩,
    ⟨"symbols", symbols.about, none⟩, ⟨"help", help.about, none⟩]
  options := [.config, .eitherHelp, .version]

def of : Option CommandName → HelpPage
  | none => program
  | some .convert => convert
  | some .latex => latex
  | some .symbols => symbols
  | some .help => help

def part (heading : String) (layout : List HelpItem → Text) (items : List HelpItem) : Text :=
  if items.isEmpty then []
  else '\n' :: heading.toList ++ ':' :: '\n' :: layout items ++ ['\n']

/-- A page as it is shown. Where there is but one form, that is the short one. -/
def text (p : HelpPage) (full : Bool) : Text :=
  let inFull? := p.inFull?.filter fun _ => full
  let layout := if inFull?.isSome then HelpItem.blocks else HelpItem.rows
  (inFull?.getD p.about).toList ++ "\n\nUsage: ".toList ++ p.usage.toList ++ ['\n'] ++
    part "Commands" HelpItem.rows p.commands ++ part "Arguments" layout p.arguments ++
    part "Options" layout p.options

end HelpPage
end ChatMarkup.Cli
