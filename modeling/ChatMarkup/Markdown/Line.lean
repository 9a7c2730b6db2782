import ChatMarkup.Markdown.Characters

namespace ChatMarkup.Markdown

/-- Splits the rest of a source into lines; `line` is what has been read of the current one, its
last character first, and `done` the lines before it, the last one first. -/
def linesFrom (done : List Text) (line : Text) : Text → List Text
  | [] => (if line.isEmpty then done else line.reverse :: done).reverse
  | '\r' :: '\n' :: t => linesFrom (line.reverse :: done) [] t
  | c :: t =>
    if c = '\n' ∨ c = '\r' then linesFrom (line.reverse :: done) [] t
    else linesFrom done ((if c = '\x00' then '\ufffd' else c) :: line) t

/-- The lines of a source without their ends; a byte order mark at the very front is left out, and
replacement characters stand for null characters. -/
def lines (source : Text) : List Text :=
  match linesFrom [] [] source with
  | ('\ufeff' :: first) :: rest => first :: rest
  | all => all

def tabWidth (column : Nat) : Nat := 4 - column % 4

/-- A place within a line: what follows it, its column, and whether it lies within the tab that
follows. -/
structure Cursor where
  rest : Text
  column : Nat := 0
  insideTab : Bool := false
  deriving DecidableEq, Repr, Inhabited

def indentFrom (column : Nat) : Text → Nat
  | ' ' :: t => 1 + indentFrom (column + 1) t
  | '\t' :: t => tabWidth column + indentFrom (column + tabWidth column) t
  | _ => 0

namespace Cursor

variable (c : Cursor)

def indent : Nat := indentFrom c.column c.rest

def front : Text := c.rest.dropWhile isSpaceOrTab

/-- Whether nothing but spaces and tabs follows. -/
def isBlank : Bool := c.front.isEmpty

def isIndented : Bool := 4 ≤ c.indent

theorem length_front_le : c.front.length ≤ c.rest.length :=
  (List.dropWhile_sublist _).length_le

/-- Goes on over one character. -/
def next (c : Cursor) : Cursor :=
  match c.rest with
  | [] => c
  | '\t' :: t => { rest := t, column := c.column + tabWidth c.column }
  | _ :: t => { rest := t, column := c.column + 1 }

def skip : Nat → Cursor → Cursor
  | 0, c => c
  | n + 1, c => skip n c.next

def skipIndent : Cursor :=
  match c.rest with
  | ' ' :: _ | '\t' :: _ => { rest := c.front, column := c.column + c.indent }
  | _ => c

/-- Goes on over one column; within a tab this is a part of the tab. -/
def nextColumn (c : Cursor) : Cursor :=
  match c.rest with
  | '\t' :: _ =>
    if tabWidth c.column = 1 then c.next else { c with column := c.column + 1, insideTab := true }
  | _ => c.next

/-- Goes on over some columns; it may stop within a tab. -/
def skipColumns : Nat → Cursor → Cursor
  | 0, c => c
  | n + 1, c => skipColumns n c.nextColumn

def skipSpace : Cursor :=
  match c.rest with
  | ' ' :: _ | '\t' :: _ => c.nextColumn
  | _ => c

/-- Goes on over at most `n` columns of spaces and tabs. -/
def skipSpaces : Nat → Cursor → Cursor
  | 0, c => c
  | n + 1, c => skipSpaces n c.skipSpace

theorem rest_skipIndent : c.skipIndent.rest = c.front := by
  unfold skipIndent front
  split
  · rfl
  · rfl
  · rename_i h₁ h₂
    match h : c.rest with
    | [] => rfl
    | d :: t =>
      have hd : isSpaceOrTab d = false := by
        simp only [isSpaceOrTab, Bool.or_eq_false_iff, beq_eq_false_iff_ne, ne_eq]
        exact ⟨fun e => h₁ t (by rw [h, e]), fun e => h₂ t (by rw [h, e])⟩
      rw [List.dropWhile_cons, hd]
      rfl

theorem length_next_le : c.next.rest.length ≤ c.rest.length := by
  unfold next
  split <;> simp_all

theorem length_next_lt {c : Cursor} (h : c.rest ≠ []) : c.next.rest.length < c.rest.length := by
  unfold next
  split <;> simp_all

theorem length_nextColumn_le : c.nextColumn.rest.length ≤ c.rest.length := by
  unfold nextColumn
  split
  · split
    · exact c.length_next_le
    · exact Nat.le_refl _
  · exact c.length_next_le

theorem length_skip_le (n : Nat) : (c.skip n).rest.length ≤ c.rest.length := by
  induction n generalizing c with
  | zero => exact Nat.le_refl _
  | succ n ih => exact Nat.le_trans (ih _) c.length_next_le

theorem length_skip_lt {c : Cursor} {n : Nat} (hn : 0 < n) (h : c.rest ≠ []) :
    (c.skip n).rest.length < c.rest.length := by
  cases n with
  | zero => exact absurd hn (Nat.lt_irrefl _)
  | succ n => exact Nat.lt_of_le_of_lt (c.next.length_skip_le n) (length_next_lt h)

theorem length_skipSpace_le : c.skipSpace.rest.length ≤ c.rest.length := by
  unfold skipSpace
  split
  · exact c.length_nextColumn_le
  · exact c.length_nextColumn_le
  · exact Nat.le_refl _

theorem length_skipSpaces_le (n : Nat) : (c.skipSpaces n).rest.length ≤ c.rest.length := by
  induction n generalizing c with
  | zero => exact Nat.le_refl _
  | succ n ih => exact Nat.le_trans (ih _) c.length_skipSpace_le

def remainder : Text :=
  (if c.insideTab then List.replicate (tabWidth c.column) ' ' ++ c.rest.tail else c.rest) ++ ['\n']

end Cursor
end ChatMarkup.Markdown
