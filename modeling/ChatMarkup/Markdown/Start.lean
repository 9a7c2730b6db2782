import ChatMarkup.Markdown.Block
import ChatMarkup.Markdown.Html
import ChatMarkup.Text.Numeral

namespace ChatMarkup.Markdown

/-- The columns of indentation that make code. -/
def codeIndent : Nat := 4

/-- At most this many containers start on one line before lists are no longer looked for. -/
def startsLimit : Nat := 99

/-- What a line starts. An item says whether it may interrupt a paragraph: numbering must begin
with 1, and the line must not be blank after the marker. -/
inductive Start where
  | quote (after : Cursor)
  | item (marker : Marker) (indent : Nat) (interrupts : Bool) (after : Cursor)
  | heading (level : Nat) (content : Text)
  | fence (mark : Char) (length offset : Nat) (info : Text)
  | html (kind : Html.BlockKind)
  | thematicBreak
  | code (after : Cursor)
  deriving Repr

namespace Start

def interruptsParagraph : Start → Bool
  | item _ _ interrupts _ => interrupts
  | html kind => kind != .tag
  | code _ => false
  | _ => true

def isCode : Start → Bool
  | code _ => true
  | _ => false

def headingContent (t : Text) : Text :=
  let t := Text.dropEndWhile isSpace (t.dropWhile isSpaceOrTab)
  let bare := Text.dropEndWhile (· == '#') t
  match bare.getLast? with
  | none => []
  | some c => if isSpaceOrTab c then Text.dropEndWhile isSpace bare else t

def heading? (t : Text) : Option Start :=
  let level := (t.takeWhile (· == '#')).length
  let rest := t.drop level
  if 0 < level && level ≤ 6 && (rest.head?.all isSpaceOrTab) then
    some (heading level (headingContent rest))
  else none

def fence? (offset : Nat) (t : Text) : Option Start :=
  match t with
  | [] => none
  | mark :: _ =>
    let length := (t.takeWhile (· == mark)).length
    let info := t.drop length
    if 3 ≤ length && (mark == '~' || (mark == '\x60' && !info.contains '\x60')) then
      some (fence mark length offset info)
    else none

def isThematicBreak (t : Text) : Bool :=
  match t with
  | [] => false
  | mark :: _ =>
    (mark == '*' || mark == '-' || mark == '_') && t.all (fun c => c == mark || isSpaceOrTab c) &&
      3 ≤ t.count mark

/-- The most digits of an item's number. -/
def digitsLimit : Nat := 9

/-- Reads the marker of an item at the front of a text: the marker, how many characters it has, and
whether its number is 1 or there is none. White space or the end of the line must follow. -/
def marker? (t : Text) : Option (Marker × Nat × Bool) :=
  match t with
  | [] => none
  | c :: rest =>
    if c = '*' ∨ c = '-' ∨ c = '+' then
      if rest.head?.all isSpace then some (⟨false, c⟩, 1, true) else none
    else
      let digits := (t.takeWhile Char.isDigit).take digitsLimit
      match digits, t.drop digits.length with
      | _ :: _, sign :: rest =>
        if (sign = '.' ∨ sign = ')') ∧ rest.head?.all isSpace = true then
          some (⟨true, sign⟩, digits.length + 1, Text.digitsValue digits == 1)
        else none
      | _, _ => none

/-- Where the content of an item starts after its marker, and the columns between. More than four
columns of white space, or none but the end of the line, count as one. -/
def itemContent (c : Cursor) : Nat × Cursor :=
  let after := c.skipSpaces 6
  let columns := after.column - c.column
  if 1 ≤ columns && columns ≤ 4 && !after.rest.isEmpty then (columns, after) else (1, c.skipSpace)

def item? (c : Cursor) : Option Start := do
  let (marker, width, startsAtOne) ← marker? c.front
  let after := c.skipIndent.skip width
  let (padding, content) := itemContent after
  return item marker (c.indent + width + padding) (startsAtOne && !after.isBlank) content

/-- What a line starts at a place; `starts` containers have been started on the same line. -/
def read? (starts : Nat) (c : Cursor) : Option Start :=
  if c.isIndented then
    if c.isBlank then none else some (code (c.skipColumns codeIndent))
  else
    match Containers.quoteMark? c with
    | some after => some (quote after)
    | none =>
      let t := c.front
      (heading? t).or <| (fence? (c.rest.length - t.length) t).or <|
        ((Html.blockStart? t).map html).or <|
          if isThematicBreak t then some thematicBreak
          else if starts < startsLimit then item? c
          else none

/-- The place after the mark of a container. -/
def after? : Start → Option Cursor
  | quote after => some after
  | item _ _ _ after => some after
  | _ => none

theorem width_pos_of_marker? {t : Text} {m : Marker} {width : Nat} {first : Bool}
    (h : marker? t = some (m, width, first)) : 0 < width ∧ t ≠ [] := by
  unfold marker? at h
  split at h
  · simp at h
  · refine ⟨?_, by simp⟩
    split at h
    · split at h
      · simp only [Option.some.injEq, Prod.mk.injEq] at h
        omega
      · simp at h
    · simp only at h
      split at h
      · split at h
        · simp only [Option.some.injEq, Prod.mk.injEq] at h
          omega
        · simp at h
      · simp at h

theorem length_item?_lt {c after : Cursor} {s : Start} (h : item? c = some s)
    (hs : s.after? = some after) : after.rest.length < c.rest.length := by
  simp only [item?, Option.bind_eq_bind, Option.bind_eq_some_iff] at h
  obtain ⟨⟨m, width, first⟩, hm, h⟩ := h
  obtain ⟨hw, hne⟩ := width_pos_of_marker? hm
  obtain rfl := Option.some.inj h
  obtain rfl := Option.some.inj hs
  have h1 : (itemContent (c.skipIndent.skip width)).2.rest.length
      ≤ (c.skipIndent.skip width).rest.length := by
    unfold itemContent
    simp only
    split
    · exact Cursor.length_skipSpaces_le _ _
    · exact Cursor.length_skipSpace_le _
  have h2 := Cursor.length_skip_lt (c := c.skipIndent) hw
    (by rw [Cursor.rest_skipIndent]; exact hne)
  have h3 := c.length_front_le
  rw [Cursor.rest_skipIndent] at h2
  exact Nat.lt_of_le_of_lt h1 (Nat.lt_of_lt_of_le h2 h3)

theorem length_quoteMark?_lt {c after : Cursor} (h : Containers.quoteMark? c = some after) :
    after.rest.length < c.rest.length := by
  unfold Containers.quoteMark? at h
  split at h
  · simp at h
  · split at h
    · rename_i t ht
      simp only [Option.some.injEq] at h
      subst h
      have h1 := Cursor.length_skipSpace_le c.skipIndent.next
      have h2 := Cursor.length_next_lt (c := c.skipIndent)
        (by rw [Cursor.rest_skipIndent, ht]; simp)
      have h3 := c.length_front_le
      rw [Cursor.rest_skipIndent] at h2
      omega
    · simp at h

theorem length_after_lt {starts : Nat} {c after : Cursor} {s : Start} (h : read? starts c = some s)
    (hs : s.after? = some after) : after.rest.length < c.rest.length := by
  unfold read? at h
  split at h
  · split at h
    · simp at h
    · simp only [Option.some.injEq] at h
      subst h
      simp [after?] at hs
  · split at h
    · rename_i a ha
      simp only [Option.some.injEq] at h
      subst h
      simp only [after?, Option.some.injEq] at hs
      subst hs
      exact length_quoteMark?_lt ha
    · simp only [Option.or_eq_some_iff] at h
      rcases h with h | ⟨-, h | ⟨-, h | ⟨-, h⟩⟩⟩
      · unfold heading? at h
        simp only at h
        split at h
        · simp only [Option.some.injEq] at h
          subst h
          simp [after?] at hs
        · simp at h
      · unfold fence? at h
        split at h
        · simp at h
        · simp only at h
          split at h
          · simp only [Option.some.injEq] at h
            subst h
            simp [after?] at hs
          · simp at h
      · simp only [Option.map_eq_some_iff] at h
        obtain ⟨k, -, rfl⟩ := h
        simp [after?] at hs
      · split at h
        · simp only [Option.some.injEq] at h
          subst h
          simp [after?] at hs
        · split at h
          · exact length_item?_lt h hs
          · simp at h

end Start
end ChatMarkup.Markdown
