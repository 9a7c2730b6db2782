import ChatMarkup.Markdown.Inline
import ChatMarkup.Text.Punctuation

namespace ChatMarkup.Markdown

/-- A run of one mark, as long as it was written, and what it may do. -/
structure Run where
  mark : Char
  length : Nat
  canOpen : Bool
  canClose : Bool
  deriving DecidableEq, Repr, Inhabited

namespace Run

/-- A run between two characters. It may open what follows unless a blank comes next, or a mark of
punctuation that is not at the start of a word; closing is the same with the sides exchanged.
Underscores do nothing within a word. -/
def between (mark : Char) (length : Nat) (before after : Char) : Run :=
  let opens := !ChatMarkup.isBlank after &&
    (!isPunctuation after || ChatMarkup.isBlank before || isPunctuation before)
  let closes := !ChatMarkup.isBlank before &&
    (!isPunctuation before || ChatMarkup.isBlank after || isPunctuation after)
  if mark = '_' then
    ⟨mark, length, opens && (!closes || isPunctuation before),
      closes && (!opens || isPunctuation after)⟩
  else ⟨mark, length, opens, closes⟩

/-- Whether `opener` may open what `closer` closes. Where one of them could do both, their lengths
must not add up to a multiple of three, unless both are multiples of three. -/
def pairs (opener closer : Run) : Bool :=
  opener.canOpen && opener.mark == closer.mark &&
    (!(closer.canOpen || opener.canClose) || (opener.length + closer.length) % 3 != 0 ||
      (opener.length % 3 == 0 && closer.length % 3 == 0))

def style (r : Run) (used : Nat) : Style :=
  if r.mark = '~' then .del
  else if r.mark = '^' then .superscript
  else if used = 1 then .emph
  else .strong

/-- The marks that are left of a run, as text. -/
def leftover (r : Run) (left : Nat) : List Inline :=
  if left = 0 then [] else [.text (List.replicate left r.mark)]

end Run

inductive Piece where
  | inline (i : Inline)
  | run (r : Run)
  deriving Repr, Inhabited

/-- A run that may still open, with the marks that are left of it and what stands before it, the
newest first. -/
structure Opener where
  run : Run
  left : Nat
  outer : List Inline
  deriving Repr, Inhabited

/-- The state of the pairing: the runs that may open, the innermost first, and what follows the
innermost one, the newest first. Once stopped, all runs are text. -/
structure Pairing where
  openers : List Opener := []
  done : List Inline := []
  stopped : Bool := false
  deriving Repr, Inhabited

namespace Pairing

/-- Gives up openers, the innermost first; what they hold becomes part of what is around them. -/
def flatten (openers : List Opener) (done : List Inline) : List Inline :=
  openers.foldl (fun done o => done ++ (o.run.leftover o.left ++ o.outer)) done

def findOpener? (closer : Run) : List Opener → Option (List Opener × Opener × List Opener)
  | [] => none
  | o :: outer =>
    if o.run.pairs closer then some ([], o, outer)
    else (findOpener? closer outer).map fun (inner, found, outer) => (o :: inner, found, outer)

def add (p : Pairing) (i : Inline) : Pairing := { p with done := i :: p.done }

def leave (p : Pairing) (r : Run) (left : Nat) : Pairing :=
  if r.canOpen && !p.stopped then { p with openers := ⟨r, left, p.done⟩ :: p.openers, done := [] }
  else { p with done := r.leftover left ++ p.done }

/-- Takes from the runs of a mark, other than asterisks, that one closing run has found unfit the
chance to open. -/
def retire (p : Pairing) (mark : Char) : Pairing :=
  if mark = '*' then p
  else
    let retired (o : Opener) : Opener :=
      if o.run.mark = mark then { o with run := { o.run with canOpen := false } } else o
    { p with openers := p.openers.map retired }

/-- Pairs what is left of a closing run; `steps` bounds the pairs. Tildes pair only in runs of
equal length that are used up at once, and two runs that cannot end the pairing. -/
def close (r : Run) : Nat → Nat → Pairing → Pairing
  | 0, left, p => p.leave r left
  | steps + 1, left, p =>
    if left = 0 then p
    else
      match findOpener? r p.openers with
      | none => (p.retire r.mark).leave r left
      | some (inner, o, outer) =>
        let used := if 2 ≤ left ∧ 2 ≤ o.left then 2 else 1
        if r.mark = '~' ∧ (o.left ≠ left ∨ used < left) then
          { p with stopped := true }.leave r left
        else
          let styled := Inline.styled (r.style used) (flatten inner p.done).reverse
          let p :=
            if o.left = used then { p with openers := outer, done := styled :: o.outer }
            else { p with openers := { o with left := o.left - used } :: outer, done := [styled] }
          close r steps (left - used) p

def addPiece (p : Pairing) : Piece → Pairing
  | .inline i => p.add i
  | .run r => if r.canClose && !p.stopped then close r r.length r.length p else p.leave r r.length

end Pairing

/-- Pairs the runs of some pieces; what pairs with nothing is text. -/
def resolve (pieces : List Piece) : List Inline :=
  let p : Pairing := pieces.foldl Pairing.addPiece {}
  (Pairing.flatten p.openers p.done).reverse

end ChatMarkup.Markdown
