import ChatMarkup.Markdown.Characters
import ChatMarkup.Markdown.Entity
import ChatMarkup.Text.Blank
import ChatMarkup.Text.Case

namespace ChatMarkup.Markdown

structure Target where
  destination : Text
  title : Text := []
  deriving DecidableEq, Repr, Inhabited

/-- A label has at most this many bytes. -/
def labelLimit : Nat := 1000

/-- Reads the rest of a label whose length so far is known, up to its bracket. A bracket within a
label must be escaped. -/
def labelFrom (length : Nat) : Text → Option (Text × Text)
  | [] => none
  | '\\' :: d :: t =>
    if labelLimit < length then none
    else if isAsciiPunctuation d then
      (labelFrom (length + 2) t).map fun (label, rest) => ('\\' :: d :: label, rest)
    else (labelFrom (length + 1) (d :: t)).map fun (label, rest) => ('\\' :: label, rest)
  | c :: t =>
    if labelLimit < length ∨ c = '[' then none
    else if c = ']' then some ([], t)
    else (labelFrom (length + c.utf8Size) t).map fun (label, rest) => (c :: label, rest)

def label? : Text → Option (Text × Text)
  | '[' :: t => (labelFrom 0 t).map fun (label, rest) => (trim label, rest)
  | _ => none

def squeeze (afterBlank : Bool) : Text → Text
  | [] => []
  | c :: t =>
    if ChatMarkup.isBlank c then
      if afterBlank then squeeze true t else ' ' :: squeeze true t
    else c :: squeeze false t

/-- The form in which labels are compared: without case, and with runs of white space as one. -/
def labelKey (label : Text) : Text := squeeze false (Text.fold (trim label))

/-- Reads the rest of a destination in angle brackets; something must follow it. -/
def angledFrom : Text → Option (Text × Text)
  | [] => none
  | '\\' :: d :: t => (angledFrom t).map fun (url, rest) => ('\\' :: d :: url, rest)
  | c :: t =>
    if c = '>' then (if t.isEmpty then none else some ([], t))
    else if c = '\n' ∨ c = '<' then none
    else (angledFrom t).map fun (url, rest) => (c :: url, rest)

/-- The parentheses within a destination are nested at most this deep. -/
def parenthesesLimit : Nat := 32

/-- Reads the rest of a destination without angle brackets within some parentheses; something must
follow it. -/
def bareFrom (depth : Nat) : Text → Option (Text × Text)
  | [] => none
  | '\\' :: d :: t =>
    if isAsciiPunctuation d then
      (bareFrom depth t).map fun (url, rest) => ('\\' :: d :: url, rest)
    else (bareFrom depth (d :: t)).map fun (url, rest) => ('\\' :: url, rest)
  | c :: t =>
    if isSpace c || isControl c then (if depth = 0 then some ([], c :: t) else none)
    else if c = '(' then
      if depth < parenthesesLimit then
        (bareFrom (depth + 1) t).map fun (url, rest) => (c :: url, rest)
      else none
    else if c = ')' then
      if depth = 0 then some ([], c :: t)
      else (bareFrom (depth - 1) t).map fun (url, rest) => (c :: url, rest)
    else (bareFrom depth t).map fun (url, rest) => (c :: url, rest)

def destination? : Text → Option (Text × Text)
  | '<' :: t => angledFrom t
  | c :: t => if isSpace c || isControl c then none else bareFrom 0 (c :: t)
  | [] => none

/-- Reads the rest of a title up to its closing mark. A mark after a backslash belongs to the title
unless no other one can close it. -/
def titleFrom (mark : Char) (escaped : Bool) : Text → Option (Text × Text)
  | [] => none
  | c :: t =>
    if c = mark then
      if escaped then
        match titleFrom mark false t with
        | some (title, rest) => some (c :: title, rest)
        | none => some ([], t)
      else some ([], t)
    else if c = '(' ∧ mark = ')' ∧ escaped = false then none
    else (titleFrom mark (c == '\\') t).map fun (title, rest) => (c :: title, rest)

def title? : Text → Option (Text × Text)
  | '\x22' :: t => titleFrom '\x22' false t
  | '\'' :: t => titleFrom '\'' false t
  | '(' :: t => titleFrom ')' false t
  | _ => none

def clean (t : Text) : Text := unescape (Entity.expand t)

def Target.ofWritten (destination title : Text) : Target := ⟨clean (trim destination), clean title⟩

/-- Reads the white space that may stand between the parts of a definition: at most one line
end. -/
def skipGap (t : Text) : Text :=
  match t.dropWhile isSpaceOrTab with
  | '\n' :: t => t.dropWhile isSpaceOrTab
  | t => t

def lineEnd? (t : Text) : Option Text :=
  match t.dropWhile isSpaceOrTab with
  | [] => some []
  | '\n' :: t => some t
  | _ => none

/-- Reads a title on a line's end after white space, which is part of what is read; where there is
none, the line must end. -/
def titleLine? (t : Text) : Option (Text × Text) :=
  let gap := skipGap t
  let titled : Option (Text × Text) :=
    if gap.length < t.length then do
      let (title, rest) ← title? gap
      return (title, ← lineEnd? rest)
    else none
  titled.or ((lineEnd? t).map ([], ·))

def definition? (t : Text) : Option ((Text × Target) × Text) := do
  let (label, t) ← label? t
  if label.isEmpty then
    none
  let (destination, t) ← destination? (skipGap (← char? ':' t))
  let (title, t) ← titleLine? t
  return ((label, Target.ofWritten destination title), t)

abbrev Definitions := List (Text × Target)

namespace Definitions

def lookup? (definitions : Definitions) (label : Text) : Option Target :=
  List.lookup (labelKey label) definitions

def define (definitions : Definitions) (label : Text) (target : Target) : Definitions :=
  if labelKey label = [] ∨ (definitions.lookup? label).isSome then definitions
  else (labelKey label, target) :: definitions

/-- Reads the definitions at the front of a paragraph; gives what is left of it too. -/
def readFront (definitions : Definitions) (t : Text) : Definitions × Text :=
  match definition? t with
  | some ((label, target), rest) =>
    if rest.length < t.length then readFront (definitions.define label target) rest
    else (definitions, t)
  | none => (definitions, t)
termination_by t.length

end Definitions
end ChatMarkup.Markdown
