import ChatMarkup.Text.Basic

namespace ChatMarkup

/-- A reader gives what it has read and leaves the rest of the text. -/
abbrev Reader (α : Type) := StateT Text Option α

namespace Reader

variable {α : Type}

def peek? : Reader (Option Char) := fun t => some (t.head?, t)

def looksAt (word : Text) : Reader Bool := fun t => some (word.isPrefixOf t, t)

def one (p : Char → Bool) : Reader Char
  | c :: t => if p c then some (c, t) else none
  | [] => none

def exactly (word : Text) : Reader Unit := fun t => (Text.dropFront? word t).map ((), ·)

def accept (word : Text) : Reader Bool := fun t =>
  match Text.dropFront? word t with
  | some rest => some (true, rest)
  | none => some (false, t)

def span (p : Char → Bool) : Reader Text := fun t => some (t.takeWhile p, t.dropWhile p)

def some1 (p : Char → Bool) : Reader Text := do
  let c ← one p
  return c :: (← span p)

def atEnd : Reader Unit := fun t => if t.isEmpty then some ((), []) else none

def require (b : Bool) : Reader Unit := if b then pure () else failure

def get (a : Option α) : Reader α := fun t => a.map (·, t)

def manyFrom (r : Reader α) (done : List α) (t : Text) : List α × Text :=
  match r.run t with
  | some (a, rest) =>
    if rest.length < t.length then manyFrom r (a :: done) rest else (done.reverse, t)
  | none => (done.reverse, t)
termination_by t.length

def many (r : Reader α) : Reader (List α) := fun t => some (manyFrom r [] t)

def whole? (r : Reader α) (t : Text) : Option α :=
  match r.run t with
  | some (a, []) => some a
  | _ => none

end Reader
end ChatMarkup
