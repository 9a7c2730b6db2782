import ChatMarkup.Text.Blank
import ChatMarkup.Text.Numeral

namespace ChatMarkup

/-- The characters with a meaning of their own in chat markup. -/
def reserved : List Char :=
  ['_', '*', '[', ']', '(', ')', '~', '\x60', '>', '#', '+', '-', '=', '|', '{', '}', '.', '!',
    '\\', '<']

def isReserved (c : Char) : Bool := reserved.contains c

/-- Whether a character needs a backslash in running text; `number` says that a number stands
before it. -/
def escapedAfter (number : Bool) (c : Char) : Bool :=
  if c = '!' then false else if c = '.' then number else isReserved c

/-- Whether a character needs a backslash after the text `preceding`. -/
def needsEscaping (c : Char) (preceding : Text) : Bool :=
  escapedAfter (Text.isNumber preceding) c

def escapeChar (escaped : Bool) (c : Char) : Text := if escaped then ['\\', c] else [c]

/-- Escapes the rest of a run: `number` says that what precedes is a number, `fresh` that no
character of the current word has been read. -/
def escapeRunFrom (number fresh : Bool) : Text → Text
  | [] => []
  | c :: t =>
    if isBlank c then c :: escapeRunFrom false true t
    else
      escapeChar (escapedAfter number c) c ++
        escapeRunFrom (c.isDigit && (fresh || number)) false t

/-- Escapes one run of text; `last` is the run before it, which a period at the very start of the
run looks at. -/
def escapeRun (text last : Text) : Text := escapeRunFrom (Text.isNumber last) true text

def escapeLiteral : Text → Text
  | [] => []
  | c :: t => escapeChar (isReserved c) c ++ escapeLiteral t

/-- Takes the backslashes off a text; each of them keeps the character after it as it is. -/
def unescape : Text → Text
  | [] => []
  | ['\\'] => []
  | '\\' :: c :: t => c :: unescape t
  | c :: t => c :: unescape t

def escapeDestination : Text → Text
  | [] => []
  | c :: t => escapeChar (c == '\\') c ++ escapeDestination t

/-- The space that a tab or a line break becomes; other characters stay. -/
def flattenBreak (c : Char) : Char := if c = '\n' ∨ c = '\r' ∨ c = '\t' then ' ' else c

/-- Squeezes the rest of a text; `spaced` says that a space was just written. -/
def collapseFrom (spaced : Bool) : Text → Text
  | [] => []
  | c :: t =>
    if flattenBreak c = ' ' then
      if spaced then collapseFrom true t else ' ' :: collapseFrom true t
    else c :: collapseFrom false t

/-- Turns tabs and line breaks into spaces and squeezes runs of spaces, without trimming. -/
def collapseWhitespace (text : Text) : Text := collapseFrom false text

theorem unescape_escapeChar_append {escaped : Bool} {c : Char} (h : c = '\\' → escaped = true)
    (t : Text) : unescape (escapeChar escaped c ++ t) = c :: unescape t := by
  cases escaped with
  | true => rfl
  | false =>
    have hc : c ≠ '\\' := fun e => Bool.false_ne_true (h e)
    change unescape (c :: t) = c :: unescape t
    rw [unescape] <;> simp [hc]

theorem unescape_escapeLiteral (t : Text) : unescape (escapeLiteral t) = t := by
  induction t with
  | nil => rfl
  | cons c t ih =>
    have h : c = '\\' → isReserved c = true := by
      intro e
      subst e
      decide
    rw [escapeLiteral, unescape_escapeChar_append h, ih]

theorem unescape_escapeRunFrom (number fresh : Bool) (t : Text) :
    unescape (escapeRunFrom number fresh t) = t := by
  induction t generalizing number fresh with
  | nil => rfl
  | cons c t ih =>
    rw [escapeRunFrom]
    split
    · rename_i hb
      have h : c = '\\' → false = true := by
        intro e
        subst e
        exact absurd hb (by decide)
      have := unescape_escapeChar_append h (escapeRunFrom false true t)
      rw [ih] at this
      exact this
    · have h : c = '\\' → escapedAfter number c = true := by
        intro e
        subst e
        cases number <;> decide
      rw [unescape_escapeChar_append h, ih]

theorem unescape_escapeRun (t last : Text) : unescape (escapeRun t last) = t :=
  unescape_escapeRunFrom _ _ t

theorem escapeLiteral_append (a b : Text) :
    escapeLiteral (a ++ b) = escapeLiteral a ++ escapeLiteral b := by
  induction a with
  | nil => rfl
  | cons c a ih => simp [escapeLiteral, ih]

end ChatMarkup
