import ChatMarkup.Markdown.Autolink
import ChatMarkup.Markdown.Emphasis
import ChatMarkup.Markdown.Span

namespace ChatMarkup.Markdown

/-- A bracket that is open: what stands before it, the newest first, the source after it, and
whether another bracket has been opened since. -/
structure Bracket where
  image : Bool
  outer : List Piece
  source : Text
  followed : Bool := false
  deriving Repr, Inhabited

def Bracket.piece (b : Bracket) : Piece :=
  .inline (.text (if b.image then ['!', '['] else ['[']))

/-- The state of the reading: what has been read, the last character first, what is left, the pieces
within the innermost bracket, the newest first, and the brackets, the innermost first. `inBrackets`
says that the last bracket was an opening one, and `afterLink` that a link has been closed since the
last opening one. -/
structure Reading where
  before : Text := []
  rest : Text
  pieces : List Piece := []
  brackets : List Bracket := []
  inBrackets : Bool := false
  afterLink : Bool := false
  deriving Repr, Inhabited

namespace Reading

def goTo (r : Reading) (rest : Text) : Reading :=
  let read := r.rest.take (r.rest.length - rest.length)
  { r with before := read.reverse ++ r.before, rest := rest }

def emit (r : Reading) (i : Inline) (rest : Text) : Reading :=
  { r.goTo rest with pieces := .inline i :: r.pieces }

/-- The characters at which a plain text ends; carets are plain within brackets. -/
def isSpecial (inBrackets : Bool) (c : Char) : Bool :=
  "\n_*\x22\x60'\\&<[]!$:w~".toList.contains c || (c == '^' && !inBrackets)

/-- Reads plain text; it has no white space before a line end or after a line break. -/
def readText (r : Reading) : Reading :=
  let t := r.rest.takeWhile fun c => !isSpecial r.inBrackets c
  let rest := r.rest.drop t.length
  let t := if rest.head? == some '\n' then trimEnd t else t
  let afterBreak := match r.pieces with
    | .inline i :: _ => i.isHardBreak
    | _ => false
  r.emit (.text (if afterBreak then t.dropWhile isSpace else t)) rest

/-- Reads a line end and the spaces after it; two spaces before it break the line. -/
def readLineEnd (r : Reading) (t : Text) : Reading :=
  let rest := t.dropWhile isSpaceOrTab
  match r.before with
  | ' ' :: ' ' :: _ => r.emit .hardBreak rest
  | _ => r.emit .softBreak rest

def readEscape (r : Reading) (t : Text) : Reading :=
  match t with
  | c :: rest =>
    if isAsciiPunctuation c then r.emit (.text [c]) rest
    else if c = '\n' then r.emit .hardBreak rest
    else r.emit (.text ['\\']) t
  | [] => r.emit (.text ['\\']) t

/-- The character of the surroundings of a run that counts: tildes are passed over. -/
def neighbour (t : Text) : Char := (t.dropWhile (· == '~')).headD '\n'

def readRun (r : Reading) (mark : Char) : Reading :=
  let length := (r.rest.takeWhile (· == mark)).length
  let rest := r.rest.drop length
  let run := Run.between mark length (neighbour r.before) (neighbour rest)
  if run.canOpen || run.canClose then { r.goTo rest with pieces := .run run :: r.pieces }
  else r.emit (.text (List.replicate length mark)) rest

def readCode (r : Reading) : Reading :=
  let run := r.rest.takeWhile (· == '\x60')
  let rest := r.rest.drop run.length
  match Span.code? run.length rest with
  | some (content, rest) => r.emit (.code (Span.codeContent content)) rest
  | none => r.emit (.text run) rest

def readFormula (r : Reading) : Reading :=
  let run := r.rest.takeWhile (· == '$')
  let rest := r.rest.drop run.length
  match Span.formula? run.length rest with
  | some (formula, rest) => r.emit formula rest
  | none => r.emit (.text run) rest

/-- Takes characters off the text that was read last. -/
def takeBack : Nat → List Piece → List Piece
  | 0, pieces => pieces
  | n + 1, .inline (.text t) :: pieces =>
    if n + 1 < t.length then .inline (.text (t.take (t.length - (n + 1)))) :: pieces
    else takeBack (n + 1 - t.length) pieces
  | _, pieces => pieces

/-- Reads a colon: within an address the scheme before it becomes a part of the link. -/
def readColon (r : Reading) (t : Text) : Reading :=
  match if r.inBrackets then none else Autolink.url? r.before r.rest with
  | some (scheme, tail) =>
    let address := scheme ++ tail
    { r.goTo (r.rest.drop tail.length) with
      pieces := .inline (Autolink.link address address) :: takeBack scheme.length r.pieces }
  | none => r.emit (.text [':']) t

/-- Reads the letter that may start the host of an address. -/
def readHost (r : Reading) (t : Text) : Reading :=
  match if r.inBrackets then none else Autolink.www? r.before r.rest with
  | some address =>
    r.emit (Autolink.link ("http://".toList ++ address) address) (r.rest.drop address.length)
  | none => r.emit (.text ['w']) t

def openBracket (r : Reading) (image : Bool) (rest : Text) : Reading :=
  let brackets := match r.brackets with
    | b :: outer => { b with followed := true } :: outer
    | [] => []
  { r.goTo rest with
    pieces := []
    brackets := { image := image, outer := r.pieces, source := rest } :: brackets
    inBrackets := true
    afterLink := image && r.afterLink }

/-- Gives up the innermost bracket; it and what it holds become text. -/
def dropBracket (r : Reading) : Reading :=
  match r.brackets with
  | b :: outer => { r with pieces := r.pieces ++ b.piece :: b.outer, brackets := outer }
  | [] => r

def closeBracket (r : Reading) (b : Bracket) (outer : List Bracket) (target : Target)
    (rest : Text) : Reading :=
  let content := resolve r.pieces.reverse
  let made : Inline := if b.image then .image target content else .link target content
  { r.goTo rest with
    pieces := .inline made :: b.outer
    brackets := outer
    afterLink := r.afterLink || !b.image }

def target? (t : Text) : Option (Target × Text) := do
  let (destination, t) ← destination? ((← char? '(' t).dropWhile isSpace)
  let gap := t.dropWhile isSpace
  let (title, t) := ((if gap.length < t.length then title? gap else none).getD ([], gap))
  let rest ← char? ')' (t.dropWhile isSpace)
  return (Target.ofWritten destination title, rest)

/-- Reads the label of a reference after a bracket, or takes the text in the bracket for one; gives
its target. -/
def reference? (definitions : Definitions) (b : Bracket) (source t : Text) :
    Option (Target × Text) :=
  let own := b.source.take (b.source.length - source.length)
  let (label?, rest) : Option Text × Text := match label? t with
    | some (label, rest) => (some label, rest)
    | none => (none, t)
  let label? := if (label?.getD []).isEmpty && !b.followed then some own else label?
  (label?.bind definitions.lookup?).map fun target => (target, rest)

def readClosing (definitions : Definitions) (r : Reading) (t : Text) : Reading :=
  let r := { r with inBrackets := false }
  match r.brackets with
  | [] => r.emit (.text [']']) t
  | b :: outer =>
    if !b.image && r.afterLink then r.dropBracket.emit (.text [']']) t
    else
      match (target? t).or (reference? definitions b r.rest t) with
      | some (target, rest) => r.closeBracket b outer target rest
      | none => r.dropBracket.emit (.text [']']) t

def step (definitions : Definitions) (r : Reading) : Reading :=
  match r.rest with
  | [] => r
  | c :: t =>
    match c with
    | '\n' => r.readLineEnd t
    | '\\' => r.readEscape t
    | '\x60' => r.readCode
    | '&' =>
      match Entity.read? t with
      | some (image, rest) => r.emit (.text image) rest
      | none => r.emit (.text ['&']) t
    | '<' =>
      match Span.angle? t with
      | some (i, rest) => r.emit i rest
      | none => r.emit (.text ['<']) t
    | ':' => r.readColon t
    | 'w' => r.readHost t
    | '*' | '_' | '~' => r.readRun c
    | '^' => if r.inBrackets then r.readText else r.readRun c
    | '\'' | '\x22' | '-' | '.' => r.emit (.text [c]) t
    | '[' => r.openBracket false t
    | ']' => r.readClosing definitions t
    | '!' =>
      match t with
      | '[' :: '^' :: _ => r.emit (.text ['!']) t
      | '[' :: t => r.openBracket true t
      | _ => r.emit (.text ['!']) t
    | '$' => r.readFormula
    | _ => r.readText

def run (definitions : Definitions) : Nat → Reading → Reading
  | 0, r => r
  | n + 1, r => if r.rest.isEmpty then r else run definitions n (r.step definitions)

/-- The pieces of the whole text; the brackets that are still open are text. -/
def finish (r : Reading) : List Piece :=
  (r.brackets.foldl (fun pieces b => pieces ++ b.piece :: b.outer) r.pieces).reverse

end Reading

namespace Inline

def joinTexts : List Inline → List Inline
  | [] => []
  | .text t :: l =>
    match joinTexts l with
    | .text u :: l => .text (t ++ u) :: l
    | l => .text t :: l
  | i :: l => i :: joinTexts l

def linkEmails : Inline → List Inline
  | text t => Autolink.emails t
  | i => [i]

mutual

/-- Settles what is styled; links and images stay as they are. -/
def settle : Inline → Inline
  | styled style content => styled style ((joinTexts (settleEach content)).flatMap linkEmails)
  | i => i

def settleEach : List Inline → List Inline
  | [] => []
  | i :: l => settle i :: settleEach l

end

def settleAll (l : List Inline) : List Inline := (joinTexts (settleEach l)).flatMap linkEmails

/-- Reads the content of a block. A piece is at least one character, so there are no more of them
than characters. -/
def ofContent (definitions : Definitions) (content : Text) : List Inline :=
  let t := trimEnd content
  settleAll (resolve (Reading.run definitions t.length { rest := t }).finish)

end Inline
end ChatMarkup.Markdown
