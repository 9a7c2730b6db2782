import ChatMarkup.Text.Numeral

namespace ChatMarkup

/-- How deep the current list is, and the next ordinal at each depth. -/
structure ListNumbering where
  depth : Nat := 0
  ordinal : Nat → Nat := fun _ => 1

namespace ListNumbering

instance : Inhabited ListNumbering := ⟨{}⟩

/-- The numbering that has the ordinal `n` next at its depth. -/
def setNext (l : ListNumbering) (n : Nat) : ListNumbering :=
  { l with ordinal := fun depth => if depth = l.depth then n else l.ordinal depth }

/-- Enters a list; an ordered one counts from 1. -/
def enter (l : ListNumbering) (ordered : Bool) : ListNumbering :=
  let deeper := { l with depth := l.depth + 1 }
  if ordered then deeper.setNext 1 else deeper

/-- The ordinal of an item at this depth, and the numbering after it. -/
def next (l : ListNumbering) : Nat × ListNumbering :=
  let n := l.ordinal l.depth
  (n, l.setNext (n + 1))

/-- Leaves a list; outside of all lists nothing happens. -/
def exit (l : ListNumbering) : ListNumbering := { l with depth := l.depth - 1 }

def inList (l : ListNumbering) : Bool := 0 < l.depth

/-- The spaces before an item at this depth; their number is a machine word. -/
def indent (l : ListNumbering) (unit : Nat) : Text :=
  List.replicate ((l.depth - 1) * unit % wordLimit) ' '

@[simp] theorem enter_depth (l : ListNumbering) (ordered : Bool) :
    (l.enter ordered).depth = l.depth + 1 := by
  cases ordered <;> rfl

@[simp] theorem exit_depth (l : ListNumbering) : l.exit.depth = l.depth - 1 := rfl

end ListNumbering
end ChatMarkup
