import ChatMarkup.Markdown.Characters

namespace ChatMarkup.Markdown

def many (read? : Text → Option Text) (t : Text) : Text :=
  match read? t with
  | some rest => if rest.length < t.length then many read? rest else t
  | none => t
termination_by t.length

def either (first? second? : Text → Option Text) (t : Text) : Option Text :=
  (first? t).or (second? t)

namespace Html

def isNameChar (c : Char) : Bool := c.isAlphanum || c == '-'

def isAttributeStart (c : Char) : Bool := c.isAlpha || c == '_' || c == ':'

def isAttributeChar (c : Char) : Bool :=
  c.isAlphanum || c == '_' || c == ':' || c == '.' || c == '-'

def isValueChar (c : Char) : Bool :=
  !(isSpace c || c == '\x22' || c == '\'' || c == '=' || c == '<' || c == '>' || c == '\x60')

def name? : Text → Option Text
  | c :: t => if c.isAlpha then some (t.dropWhile isNameChar) else none
  | [] => none

def quoted? (mark : Char) (t : Text) : Option Text := do
  char? mark ((← char? mark t).dropWhile (· != mark))

def value? (t : Text) : Option Text := do
  let t := (← char? '=' (t.dropWhile isSpace)).dropWhile isSpace
  either (some? isValueChar) (either (quoted? '\'') (quoted? '\x22')) t

def attribute? (t : Text) : Option Text :=
  match (some? isSpace t).getD [] with
  | c :: t =>
    if isAttributeStart c then
      let t := t.dropWhile isAttributeChar
      some ((value? t).getD t)
    else none
  | [] => none

def openingTag? (t : Text) : Option Text := do
  let t := (many attribute? (← name? t)).dropWhile isSpace
  char? '>' ((char? '/' t).getD t)

def closingTag? (t : Text) : Option Text := do
  char? '>' ((← name? (← char? '/' t)).dropWhile isSpace)

def tag? : Text → Option Text := either openingTag? closingTag?

def commentEnd? : Text → Option Text
  | '-' :: '-' :: '>' :: t => some t
  | '-' :: '-' :: _ :: t => commentEnd? t
  | '-' :: c :: t => if c = '-' then none else commentEnd? t
  | ['-'] => none
  | _ :: t => commentEnd? t
  | [] => none

def dataEnd? : Text → Option Text
  | ']' :: ']' :: '>' :: t => some t
  | ']' :: ']' :: _ :: t => dataEnd? t
  | ']' :: c :: t => if c = ']' then none else dataEnd? t
  | [']'] => none
  | _ :: t => dataEnd? t
  | [] => none

/-- Reads up to the end of a processing instruction; a question mark hides the character after
it. -/
def instructionEnd? : Text → Option Text
  | '?' :: '>' :: t => some t
  | '?' :: _ :: t => instructionEnd? t
  | ['?'] => none
  | _ :: t => instructionEnd? t
  | [] => none

def declaration? : Text → Option Text
  | c :: t => if c.isAlpha then char? '>' (t.dropWhile (· != '>')) else none
  | [] => none

def span? : Text → Option Text
  | '!' :: '-' :: '-' :: '>' :: t | '!' :: '-' :: '-' :: '-' :: '>' :: t => some t
  | '!' :: '-' :: '-' :: t => commentEnd? t
  | '!' :: '[' :: t => (Text.dropFront? "CDATA[".toList t).bind dataEnd?
  | '!' :: t => declaration? t
  | '?' :: t => instructionEnd? t
  | t => tag? t

inductive BlockKind where
  | verbatim
  | comment
  | instruction
  | declaration
  | data
  | element
  | tag
  deriving DecidableEq, Repr, Inhabited

def verbatimNames : List String := ["script", "pre", "textarea", "style"]

def elementNames : List String :=
  ["address", "article", "aside", "base", "basefont", "blockquote", "body", "caption", "center",
    "col", "colgroup", "dd", "details", "dialog", "dir", "div", "dl", "dt", "fieldset",
    "figcaption", "figure", "footer", "form", "frame", "frameset", "h1", "h2", "h3", "h4", "h5",
    "h6", "head", "header", "hr", "html", "iframe", "legend", "li", "link", "main", "menu",
    "menuitem", "nav", "noframes", "ol", "optgroup", "option", "p", "param", "search", "section",
    "summary", "table", "tbody", "td", "tfoot", "th", "thead", "title", "tr", "track", "ul"]

def isOneOf (names : List String) (t : Text) : Bool :=
  names.any fun name => name.toList == t.map Char.toLower

/-- Whether the front of a line, after an angle bracket, is the tag of one of some elements; what
follows the name must satisfy `ends`. -/
def namesTag (names : List String) (ends : Text → Bool) (t : Text) : Bool :=
  isOneOf names (t.takeWhile Char.isAlphanum) && ends (t.dropWhile Char.isAlphanum)

def endsName : Text → Bool
  | [] => true
  | c :: _ => isSpace c || c == '>'

def endsLine (t : Text) : Bool := t.all fun c => isSpace c && c != '\x0b'

def blockStart? : Text → Option BlockKind
  | '<' :: t =>
    if namesTag verbatimNames endsName t then some .verbatim
    else
      match t with
      | '!' :: '-' :: '-' :: _ => some .comment
      | '?' :: _ => some .instruction
      | '!' :: c :: t =>
        if c.isAlpha then some .declaration
        else if c = '[' ∧ "cdata[".toList.isPrefixOf (t.map Char.toLower) = true then some .data
        else none
      | _ =>
        let ends : Text → Bool
          | '/' :: '>' :: _ => true
          | t => endsName t
        if namesTag elementNames ends ((char? '/' t).getD t) then some .element
        else if (tag? t).any endsLine then some .tag
        else none
  | _ => none

namespace BlockKind

def endsAtBlank : BlockKind → Bool
  | element | tag => true
  | _ => false

def isLastLine (line : Text) : BlockKind → Bool
  | verbatim =>
    let small := line.map Char.toLower
    verbatimNames.any fun name => Text.occurs ("</" ++ name ++ ">").toList small
  | comment => Text.occurs "-->".toList line
  | instruction => Text.occurs "?>".toList line
  | declaration => Text.occurs ['>'] line
  | data => Text.occurs "]]>".toList line
  | element | tag => false

end BlockKind
end Html
end ChatMarkup.Markdown
