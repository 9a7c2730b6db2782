import ChatMarkup.Text.Reader
import ChatMarkup.Text.Numeral

namespace ChatMarkup.Toml

/-- Spaces and tabs. -/
def isPad (c : Char) : Bool := c == ' ' || c == '\t'

def isCommentChar (c : Char) : Bool := c == '\t' || (0x20 ≤ c.toNat && c.toNat != 0x7f)

def isBasicChar (c : Char) : Bool := isCommentChar c && c != '\x22' && c != '\\'

def isLiteralChar (c : Char) : Bool := isCommentChar c && c != '\''

def isKeyChar (c : Char) : Bool := c.isAlphanum || c == '_' || c == '-'

def pad : Reader Unit := do
  let _ ← Reader.span isPad

def lineEnd : Reader Unit := Reader.exactly ['\n'] <|> Reader.exactly ['\r', '\n']

def comment : Reader Unit := do
  if ← Reader.accept ['#'] then
    let _ ← Reader.span isCommentChar

def gap : Reader Unit := do
  let _ ← Reader.many (do pad; comment; lineEnd)
  pad

def codePoint (digits : Nat) : Reader Char := do
  let t ← (List.replicate digits ()).mapM fun _ => Reader.one fun c => (hexValue? c).isSome
  let n := Text.valueIn 16 t
  Reader.require (decide n.isValidChar)
  return Char.ofNat n

def escape : Reader Char := do
  match ← Reader.one fun _ => true with
  | 'b' => return '\x08'
  | 't' => return '\t'
  | 'n' => return '\n'
  | 'f' => return '\x0c'
  | 'r' => return '\r'
  | '\x22' => return '\x22'
  | '\\' => return '\\'
  | 'u' => codePoint 4
  | 'U' => codePoint 8
  | _ => failure

def basic : Reader Text := do
  Reader.exactly ['\x22']
  let t ← Reader.many (Reader.one isBasicChar <|> (do Reader.exactly ['\\']; escape))
  Reader.exactly ['\x22']
  return t

def literal : Reader Text := do
  Reader.exactly ['\'']
  let t ← Reader.span isLiteralChar
  Reader.exactly ['\'']
  return t

/-- Reads a line end within a string, which is always a line feed. -/
def newline : Reader Text := do
  lineEnd
  return ['\n']

/-- Reads one or two quotes that do not end a string of several lines. -/
def innerQuotes (quote : Char) : Reader Text := do
  let quotes ← Reader.some1 (· == quote)
  Reader.require (quotes.length < 3)
  return quotes

/-- Reads the three quotes that end a string of several lines, after at most two that belong to
it. -/
def closingQuotes (quote : Char) : Reader Text := do
  let quotes ← Reader.some1 (· == quote)
  Reader.require (3 ≤ quotes.length && quotes.length ≤ 5)
  return quotes.drop 3

def joinedLine : Reader Text := do
  Reader.exactly ['\\']
  pad
  lineEnd
  let _ ← Reader.many (lineEnd <|> do let _ ← Reader.one isPad)
  return []

def multiline (quote : Char) (part : Reader Text) : Reader Text := do
  Reader.exactly [quote, quote, quote]
  if ← Reader.looksAt ['\n'] <||> Reader.looksAt ['\r', '\n'] then
    lineEnd
  let parts ← Reader.many (part <|> newline <|> innerQuotes quote)
  return parts.flatten ++ (← closingQuotes quote)

def multilineBasic : Reader Text :=
  multiline '\x22' <|
    Reader.some1 isBasicChar <|> joinedLine <|> do
      Reader.exactly ['\\']
      return [← escape]

def multilineLiteral : Reader Text := multiline '\'' (Reader.some1 isLiteralChar)

def string : Reader Text := do
  if ← Reader.looksAt ['\x22', '\x22', '\x22'] then multilineBasic
  else if ← Reader.looksAt ['\'', '\'', '\''] then multilineLiteral
  else basic <|> literal

def simpleKey : Reader Text := Reader.some1 isKeyChar <|> basic <|> literal

def key : Reader (List Text) := do
  let first ← simpleKey
  let others ← Reader.many (do pad; Reader.exactly ['.']; pad; simpleKey)
  return first :: others

end ChatMarkup.Toml
