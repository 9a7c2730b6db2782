import ChatMarkup.Document.Basic

namespace ChatMarkup

inductive Status where
  | goToNext
  | skipChildren
  deriving DecidableEq, Repr, Inhabited

namespace Document

variable {σ ε : Type} (d : Document)

/-- A visitor sees a node, whether it is being entered, and the state that the walk carries. -/
abbrev Visitor (σ ε : Type) := d.Id → Bool → σ → Except ε (σ × Status)

/-- Walks the part of the document below a node; the exit is visited also when the children are
skipped, and the first failing visit ends the walk. -/
def walkFrom (visit : d.Visitor σ ε) (id : d.Id) (s : σ) : Except ε σ := do
  let (s, status) ← visit id true s
  if (d.kind id).isLeaf then
    return s
  let s ← match status with
    | .skipChildren => pure s
    | .goToNext => (d.children id).attach.foldlM (fun s c => walkFrom visit c.val s) s
  let (s, _) ← visit id false s
  return s
termination_by d.size - id.val
decreasing_by
  have := d.val_lt_of_mem_children c.property
  have := c.val.isLt
  omega

theorem walkFrom_eq (visit : d.Visitor σ ε) (id : d.Id) (s : σ) :
    d.walkFrom visit id s = (do
      let (s, status) ← visit id true s
      if (d.kind id).isLeaf then
        return s
      let s ← match status with
        | .skipChildren => pure s
        | .goToNext => (d.children id).foldlM (fun s c => d.walkFrom visit c s) s
      let (s, _) ← visit id false s
      return s) := by
  rw [walkFrom]
  simp only [List.foldlM_subtype, List.unattach_attach]

def walk (visit : d.Visitor σ ε) (s : σ) : Except ε σ := d.walkFrom visit d.root s

structure Visit where
  id : d.Id
  entering : Bool
  deriving DecidableEq, Repr

/-- Logs each visit, fails at the kind `fail` and skips the children of the kinds `skip`. -/
def logVisit (skip : Kind → Bool) (fail : Option Kind) :
    d.Visitor (List d.Visit) (List d.Visit × Kind) := fun id entering log =>
  let log := log ++ [⟨id, entering⟩]
  if fail = some (d.kind id) then .error (log, d.kind id)
  else .ok (log, if skip (d.kind id) then .skipChildren else .goToNext)

/-- The visits of a walk that skips below the kinds `skip`, up to the first visit of the kind
`fail`, and whether the walk failed there. -/
def trail (skip : Kind → Bool) (fail : Option Kind) : List d.Visit × Option Kind :=
  match d.walk (d.logVisit skip fail) [] with
  | .ok log => (log, none)
  | .error (log, kind) => (log, some kind)

end Document
end ChatMarkup
