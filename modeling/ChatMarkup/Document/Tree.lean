import ChatMarkup.Document.Basic

namespace ChatMarkup

inductive Tree where
  | node (content : Node) (children : List Tree)
  deriving Repr, Inhabited

namespace Document

def newest (d : Document) : d.Id := ⟨d.size - 1, Nat.sub_lt d.size_pos Nat.one_pos⟩

theorem size_append (d : Document) (parent : d.Id) (node : Node) :
    (d.append parent node).size = d.size + 1 :=
  Arena.size_append

mutual

/-- Adds a tree below a node: the node of the tree first, then what stands below it. -/
def addTree (d : Document) (parent : d.Id) : Tree → { e : Document // d.size ≤ e.size }
  | .node content children =>
    let d' := d.append parent content
    let e := addTrees d' d'.newest children
    ⟨e.val, Nat.le_trans (by simp [d', size_append]) e.property⟩

def addTrees (d : Document) (parent : d.Id) : List Tree → { e : Document // d.size ≤ e.size }
  | [] => ⟨d, Nat.le_refl _⟩
  | t :: ts =>
    let d' := addTree d parent t
    let e := addTrees d'.val (parent.castLE d'.property) ts
    ⟨e.val, Nat.le_trans d'.property e.property⟩

end

def ofTrees (ts : List Tree) : Document := (new.addTrees new.root ts).val

end Document
end ChatMarkup
