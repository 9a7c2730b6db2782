import ChatMarkup.Text.Basic
import ChatMarkup.Text.Punctuation

namespace ChatMarkup.Markdown

def isSpaceOrTab (c : Char) : Bool := c == ' ' || c == '\t'

def isSpace (c : Char) : Bool := c == ' ' || (9 ≤ c.toNat && c.toNat ≤ 13)

def isControl (c : Char) : Bool := c.toNat < 0x20 || c.toNat == 0x7f

def trimEnd (t : Text) : Text := Text.dropEndWhile isSpace t

def trim (t : Text) : Text := trimEnd (t.dropWhile isSpace)

def unescape : Text → Text
  | [] => []
  | [c] => [c]
  | c :: d :: t =>
    if c = '\\' ∧ isAsciiPunctuation d = true then d :: unescape t else c :: unescape (d :: t)

def some? (p : Char → Bool) : Text → Option Text
  | c :: t => if p c then some (t.dropWhile p) else none
  | [] => none

def char? (c : Char) : Text → Option Text
  | d :: t => if c = d then some t else none
  | [] => none

end ChatMarkup.Markdown
