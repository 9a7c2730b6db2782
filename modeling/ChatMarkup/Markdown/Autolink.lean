import ChatMarkup.Markdown.Inline
import ChatMarkup.Text.Punctuation

namespace ChatMarkup.Markdown.Autolink

def isHostChar (c : Char) : Bool := !(ChatMarkup.isBlank c || isPunctuation c)

/-- A text with more points than this may have underscores in a host name that ends it. -/
def pointsLimit : Nat := 10

/-- Whether a text starts with a host name, of which a part has been read that has some points, and
some underscores before and after the last one. The last two labels have no underscores, and a name
that may not be short has a point. -/
def isHostFrom (short : Bool) (points before after : Nat) : Text → Bool
  | [] =>
    if (0 < before ∨ 0 < after) ∧ points ≤ pointsLimit then false else short || 0 < points
  | c :: t =>
    if c = '_' then isHostFrom short points before (after + 1) t
    else if c = '.' then isHostFrom short (points + 1) after 0 t
    else if isHostChar c || c == '-' then isHostFrom short points before after t
    else before == 0 && after == 0 && (short || 0 < points)

def isHost (short : Bool) (t : Text) : Bool := isHostFrom short 0 0 0 t

/-- The characters that are no part of a link when they stand at its end. -/
def trailing : List Char := ['?', '!', '.', ',', ':', '*', '_', '~', '\'', '\x22']

/-- Drops from the end of a link, given with its last character first, what belongs to the text
around it: marks of punctuation, a character reference, and a parenthesis that closes none of the
link's own. -/
def dropTrailing (reversed : Text) : Text :=
  match reversed with
  | [] => []
  | c :: t =>
    if trailing.contains c then dropTrailing t
    else if c = ';' then
      let name := t.takeWhile Char.isAlpha
      if !name.isEmpty && (t.drop name.length).head? == some '&' then
        dropTrailing (t.drop (name.length + 1))
      else dropTrailing t
    else if c = ')' ∧ reversed.count '(' < reversed.count ')' then dropTrailing t
    else reversed
termination_by reversed.length
decreasing_by
  all_goals simp only [List.length_cons, List.length_drop]; omega

/-- The link at the front of a text: it ends before a space or an angle bracket. -/
def linkPart (t : Text) : Text :=
  (dropTrailing (t.takeWhile fun c => !isSpace c && c != '<').reverse).reverse

def schemes : List Text := ["http".toList, "https".toList, "ftp".toList]

/-- Reads the address around a colon: the scheme at the end of what stands before, given with its
last character first, and the rest of the address. -/
def url? (before t : Text) : Option (Text × Text) :=
  let scheme := (before.takeWhile Char.isAlpha).reverse
  match Text.dropFront? "://".toList t with
  | some (c :: host) =>
    if schemes.contains scheme && isHost true (c :: host) then some (scheme, linkPart t) else none
  | _ => none

def www? (before t : Text) : Option Text :=
  let starts := match before with
    | [] => true
    | c :: _ => isSpace c || ['*', '_', '~', '(', '['].contains c
  if starts && "www.".toList.isPrefixOf t && isHost false t then some (linkPart t) else none

def link (destination text : Text) : Inline := .link { destination := destination } [.text text]

/-- How the name of a mail address starts: with a scheme or without. -/
inductive Scheme where
  | implied
  | mailto
  | xmpp
  deriving DecidableEq, Repr, Inhabited

/-- The length of the name that ends with what stands before, given with its last character first,
and its scheme. -/
def nameFrom (length : Nat) (scheme : Scheme) : Text → Nat × Scheme
  | [] => (length, scheme)
  | c :: t =>
    if c.isAlphanum || ['.', '+', '-', '_'].contains c then nameFrom (length + 1) scheme t
    else
      let word := (t.takeWhile Char.isAlpha).reverse
      if c = ':' ∧ word = "mailto".toList then
        nameFrom (length + 1) (if scheme = .xmpp then .xmpp else .mailto) t
      else if c = ':' ∧ word = "xmpp".toList then nameFrom (length + 1) .xmpp t
      else (length, scheme)

/-- The host at the front of a text, with its points; a second at sign spoils the address. -/
def mailHost? (slash : Bool) (points : Nat) : Text → Option (Text × Nat)
  | [] => some ([], points)
  | c :: t =>
    let goOn (points : Nat) := (mailHost? slash points t).map fun (host, n) => (c :: host, n)
    if c.isAlphanum || c == '-' || c == '_' || (c == '/' && slash) then goOn points
    else if c = '@' then none
    else if c = '.' ∧ t.head?.any Char.isAlphanum = true then goOn (points + 1)
    else some ([], points)

/-- Reads a mail address around an at sign, given what stands before it, with the last character
first, and what follows it: how long its name is, its host, and its destination. -/
def email? (before after : Text) : Option (Nat × Text × Text) := do
  let (length, scheme) := nameFrom 0 .implied before
  let (host, points) ← mailHost? (scheme == .xmpp) 0 after
  if 0 < length && 0 < points && host.getLast?.any Char.isAlpha then
    let address := (before.take length).reverse ++ '@' :: host
    let written := match scheme with
      | .implied => "mailto:".toList
      | _ => []
    return (length, host, written ++ address)
  else none

/-- The first mail address of a text that is not in square brackets: what stands before it, the
link, and what follows. -/
def findEmail? (before : Text) (depth : Int) : Text → Option (Text × Inline × Text)
  | [] => none
  | c :: t =>
    let depth := if c = '[' then depth + 1 else if c = ']' then depth - 1 else depth
    let here : Option (Text × Inline × Text) :=
      if c = '@' ∧ depth ≤ 0 then
        (email? before t).map fun (length, host, destination) =>
          let text := (before.take length).reverse ++ '@' :: host
          ((before.drop length).reverse, link destination text, t.drop host.length)
      else none
    here.or (findEmail? (c :: before) depth t)

def emails (t : Text) : List Inline :=
  match findEmail? [] 0 t with
  | none => [.text t]
  | some (before, link, after) =>
    [.text before, link] ++
      (if after.isEmpty then [] else if after.length < t.length then emails after
        else [.text after])
termination_by t.length

end ChatMarkup.Markdown.Autolink
