import ChatMarkup.Markdown.Inline
import ChatMarkup.Markdown.Html
import ChatMarkup.Text.Numeral

namespace ChatMarkup.Markdown.Span

/-- What a code span shows: line ends are spaces, and one space is taken off both ends unless there
is nothing else. -/
def codeContent (t : Text) : Text :=
  let t := t.map fun c => if c = '\n' then ' ' else c
  if t.any (· != ' ') && t.head? == some ' ' && t.getLast? == some ' ' then t.tail.dropLast else t

/-- A code span has at most this many backticks at either end. -/
def ticksLimit : Nat := 80

/-- Reads up to a run of exactly `length` backticks; `run` backticks have just been read, and
`read` is all that has been, the last character first. -/
def ticksEnd? (length run : Nat) (read : Text) : Text → Option (Text × Text)
  | [] => if run = length then some ((read.drop length).reverse, []) else none
  | c :: t =>
    if c = '\x60' then ticksEnd? length (run + 1) (c :: read) t
    else if run = length then some ((read.drop length).reverse, c :: t)
    else ticksEnd? length 0 (c :: read) t

def code? (length : Nat) (t : Text) : Option (Text × Text) :=
  if length ≤ ticksLimit then ticksEnd? length 0 [] t else none

/-- Reads a formula up to its dollar sign, with the character before what follows. White space
before the sign or a digit after it spoil the formula, and a backslash hides the sign. -/
def dollarEnd? (before : Char) (read : Text) : Text → Option (Text × Text)
  | [] => none
  | c :: t =>
    if c = '$' then
      if isSpace before then none
      else if before = '\\' then dollarEnd? c (c :: read) t
      else if t.head?.any Char.isDigit then none
      else some (read.reverse, t)
    else dollarEnd? c (c :: read) t

/-- Reads a formula up to the first dollar sign after a backtick. -/
def tickDollarEnd? (before : Char) (read : Text) : Text → Option (Text × Text)
  | [] => none
  | c :: t =>
    if c = '$' ∧ before = '\x60' then
      match read with
      | [] => none
      | _ :: content => some (content.reverse, t)
    else tickDollarEnd? c (c :: read) t

def formula? (length : Nat) (t : Text) : Option (Inline × Text) :=
  match length, t with
  | 1, '\x60' :: t =>
    (tickDollarEnd? '\x60' [] t).map fun (content, rest) =>
      (.math false (codeContent content), rest)
  | 1, c :: t =>
    if isSpace c then none
    else (dollarEnd? '$' [] (c :: t)).map fun (content, rest) =>
      (.math false (codeContent content), rest)
  | 2, t => (Text.cut? ['$', '$'] t).map fun (content, rest) => (.math true content, rest)
  | _, _ => none

def isSchemeChar (c : Char) : Bool := c.isAlphanum || c == '+' || c == '.' || c == '-'

def address? (t : Text) : Option (Text × Text) := do
  let scheme := t.takeWhile isSchemeChar
  let rest ← char? ':' (t.drop scheme.length)
  let path := rest.takeWhile fun c => ' ' < c && c != '<' && c != '>'
  let rest ← char? '>' (rest.drop path.length)
  if scheme.head?.any Char.isAlpha && 2 ≤ scheme.length && scheme.length ≤ 32 then
    return (scheme ++ ':' :: path, rest)
  else none

def isMailChar (c : Char) : Bool :=
  c.isAlphanum || ".!#$%&'*+/=?^_\x60\x7b|\x7d~-".toList.contains c

def isHostLabel (t : Text) : Bool :=
  t.length ≤ 63 && t.all Html.isNameChar && t.head?.any Char.isAlphanum &&
    t.getLast?.any Char.isAlphanum

def mail? (t : Text) : Option (Text × Text) := do
  let name := t.takeWhile isMailChar
  let rest ← char? '@' (t.drop name.length)
  let host := rest.takeWhile fun c => Html.isNameChar c || c == '.'
  let rest ← char? '>' (rest.drop host.length)
  if !name.isEmpty && (Text.splitAt '.' host).all isHostLabel then
    return (name ++ '@' :: host, rest)
  else none

def addressLink (scheme address : Text) : Inline :=
  let shown := Entity.expand address
  .link { destination := scheme ++ shown } [.text shown]

def angle? (t : Text) : Option (Inline × Text) :=
  match address? t, mail? t, Html.span? t with
  | some (address, rest), _, _ => some (addressLink [] address, rest)
  | none, some (address, rest), _ => some (addressLink "mailto:".toList address, rest)
  | none, none, some rest => some (.html ('<' :: t.take (t.length - rest.length)), rest)
  | none, none, none => none

end Span
end ChatMarkup.Markdown
