import ChatMarkup.Markdown.Characters

namespace ChatMarkup.Markdown.Row

/-- The white space that may follow a pipe. -/
def isPad (c : Char) : Bool := c == ' ' || c == '\t' || c == '\x0b' || c == '\x0c'

def unescapePipes : Text → Text
  | '\\' :: '|' :: t => '|' :: unescapePipes t
  | c :: t => c :: unescapePipes t
  | [] => []

def cell (reversed : Text) : Text := trim (unescapePipes reversed.reverse)

/-- The cells of the rest of a line, of whose first cell a part has been read; `skipping` skips the
white space after a pipe. -/
def cellsFrom (skipping : Bool) (read : Text) : Text → List Text
  | [] => if read.isEmpty then [] else [cell read]
  | c :: t =>
    if c = '|' ∧ read.head? ≠ some '\\' then cell read :: cellsFrom true [] t
    else if skipping && isPad c then cellsFrom true [] t
    else cellsFrom false (c :: read) t

def cells : Text → List Text
  | '|' :: t => cellsFrom true [] t
  | t => cellsFrom false [] t

def isDashes (part : Text) : Bool :=
  let t := Text.dropEndWhile isPad (part.dropWhile isPad)
  let t := (char? ':' t).getD t
  let t := ((char? ':' t.reverse).getD t.reverse)
  !t.isEmpty && t.all (· == '-')

def isDelimiter (line : Text) : Bool :=
  let parts := Text.splitAt '|' ((char? '|' line).getD line)
  let parts := if (parts.getLastD []).all isPad then parts.dropLast else parts
  !parts.isEmpty && parts.all isDashes

end Row
end ChatMarkup.Markdown
