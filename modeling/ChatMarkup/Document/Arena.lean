import ChatMarkup.Document.Node

namespace ChatMarkup

structure Entry where
  node : Node
  parent? : Option Nat
  children : Array Nat
  deriving DecidableEq, Repr

/-- Nodes in the order in which they came, numbered from 0. Which node stands below which is kept
twice: a child has the number of its parent, and a parent has those of its children. -/
structure Arena where
  entries : Array Entry

namespace Arena

def new : Arena := ⟨#[⟨.document, none, #[]⟩]⟩

def size (a : Arena) : Nat := a.entries.size

def node? (a : Arena) (id : Nat) : Option Node := a.entries[id]?.map Entry.node

def parent? (a : Arena) (id : Nat) : Option Nat := a.entries[id]?.bind Entry.parent?

def children (a : Arena) (id : Nat) : List Nat :=
  (a.entries[id]?.map fun e => e.children.toList).getD []

def isEmpty (a : Arena) : Bool := (a.children 0).isEmpty

/-- Adds a node as the last child of `parent`: first the node, then its number at the parent. -/
def append (a : Arena) (parent : Nat) (node : Node) : Arena :=
  let id := a.entries.size
  let entries := a.entries.push ⟨node, some parent, #[]⟩
  ⟨entries.modify parent fun e => { e with children := e.children.push id }⟩

/-- An arena that has come from the new one by so many appends below nodes that it had. -/
inductive Appended : Nat → Arena → Prop
  | new : Appended 0 new
  | append {n : Nat} {a : Arena} (h : Appended n a) {parent : Nat} (hparent : parent < a.size)
      (node : Node) : Appended (n + 1) (a.append parent node)

variable {a : Arena} {n id parent : Nat} {node : Node}

theorem size_append : (a.append parent node).size = a.size + 1 := by
  simp [size, append]

theorem entry?_append_size (hparent : parent < a.size) :
    (a.append parent node).entries[a.size]? = some ⟨node, some parent, #[]⟩ := by
  have hne : parent ≠ a.entries.size := Nat.ne_of_lt hparent
  have hnew : (a.entries.push ⟨node, some parent, #[]⟩)[a.entries.size]? =
      some ⟨node, some parent, #[]⟩ := Array.getElem?_push_size
  simp only [append, size, Array.getElem?_modify, if_neg hne, hnew]

theorem entry?_append_of_ne (hid : id ≠ a.size) :
    (a.append parent node).entries[id]? = a.entries[id]?.map fun e =>
      if parent = id then { e with children := e.children.push a.size } else e := by
  have hold : (a.entries.push ⟨node, some parent, #[]⟩)[id]? = a.entries[id]? := by
    have hne : id ≠ a.entries.size := hid
    rw [Array.getElem?_push, if_neg hne]
  simp only [append, Array.getElem?_modify, hold]
  split
  · rfl
  · simp

theorem map_entry?_append {α : Type} {f : Entry → α} (hparent : parent < a.size)
    (hf : ∀ e children, f { e with children := children } = f e) :
    (a.append parent node).entries[id]?.map f =
      if id = a.size then some (f ⟨node, some parent, #[]⟩) else a.entries[id]?.map f := by
  by_cases hid : id = a.size
  · rw [if_pos hid, hid, entry?_append_size hparent]
    rfl
  · rw [if_neg hid, entry?_append_of_ne hid, Option.map_map]
    congr 1
    funext e
    by_cases h : parent = id <;> simp [h, hf]

theorem node?_append (hparent : parent < a.size) : (a.append parent node).node? id =
    if id = a.size then some node else a.node? id :=
  map_entry?_append hparent fun _ _ => rfl

theorem parent?_append (hparent : parent < a.size) : (a.append parent node).parent? id =
    if id = a.size then some parent else a.parent? id := by
  have hjoin : ∀ b : Arena, b.parent? id = (b.entries[id]?.map Entry.parent?).join := by
    intro b
    rw [parent?]
    cases b.entries[id]? <;> rfl
  rw [hjoin, hjoin, map_entry?_append hparent fun _ _ => rfl]
  split <;> rfl

theorem children_eq_nil (h : a.size ≤ id) : a.children id = [] := by
  have hnone : a.entries[id]? = none := Array.getElem?_eq_none h
  rw [children, hnone]
  rfl

theorem parent?_eq_none (h : a.size ≤ id) : a.parent? id = none := by
  have hnone : a.entries[id]? = none := Array.getElem?_eq_none h
  rw [parent?, hnone]
  rfl

theorem lt_size_of_parent?_eq_some (h : a.parent? id = some parent) : id < a.size := by
  apply Nat.lt_of_not_le
  intro hlarge
  rw [parent?_eq_none hlarge] at h
  cases h

theorem children_append (hparent : parent < a.size) : (a.append parent node).children id =
    a.children id ++ if id = parent then [a.size] else [] := by
  by_cases hid : id = a.size
  · have hne : id ≠ parent := by omega
    rw [children_eq_nil (Nat.le_of_eq hid.symm), if_neg hne, hid, children,
      entry?_append_size hparent]
    rfl
  · rw [children, entry?_append_of_ne hid, children]
    by_cases hsame : id = parent
    · have hentry := Array.getElem?_eq_getElem hparent
      rw [hsame, hentry]
      simp
    · simp [hsame, Ne.symm hsame]

theorem Appended.size_eq (h : a.Appended n) : a.size = 1 + n := by
  induction h with
  | new => rfl
  | append _ _ _ ih => rw [size_append, ih, Nat.add_assoc]

theorem Appended.node?_zero (h : a.Appended n) : a.node? 0 = some .document := by
  induction h with
  | new => rfl
  | append h hparent _ ih => rw [node?_append hparent, if_neg (by omega), ih]

theorem Appended.parent?_zero (h : a.Appended n) : a.parent? 0 = none := by
  induction h with
  | new => rfl
  | append h hparent _ ih => rw [parent?_append hparent, if_neg (by omega), ih]

theorem Appended.exists_parent? (h : a.Appended n) (hpos : 0 < id) (hid : id < a.size) :
    ∃ parent, a.parent? id = some parent := by
  induction h with
  | new => exact absurd hid (Nat.not_lt_of_le hpos)
  | @append n a h parent hparent node ih =>
    rw [size_append] at hid
    rw [parent?_append hparent]
    split
    · exact ⟨parent, rfl⟩
    · exact ih (by omega)

theorem Appended.parent?_lt (h : a.Appended n) (hid : a.parent? id = some parent) :
    parent < id := by
  induction h with
  | new =>
    cases id with
    | zero => cases hid
    | succ id => cases hid
  | append _ hparent _ ih =>
    rw [parent?_append hparent] at hid
    split at hid
    · cases hid
      omega
    · exact ih hid

theorem Appended.children_eq_filter (h : a.Appended n) (id : Nat) :
    a.children id = (List.range a.size).filter fun c => a.parent? c == some id := by
  induction h with
  | new =>
    cases id with
    | zero => rfl
    | succ id => rfl
  | @append n a h parent hparent node ih =>
    have hold : (List.range a.size).filter (fun c => (a.append parent node).parent? c == some id) =
        a.children id := by
      rw [ih]
      apply List.filter_congr
      intro c hc
      have hne : c ≠ a.size := Nat.ne_of_lt (List.mem_range.mp hc)
      rw [parent?_append hparent, if_neg hne]
    have hnew : (a.append parent node).parent? a.size = some parent := by
      rw [parent?_append hparent, if_pos rfl]
    rw [children_append hparent, size_append, List.range_succ, List.filter_append, hold,
      List.filter_cons, List.filter_nil, hnew]
    by_cases hid : id = parent
    · simp [hid]
    · simp [hid, Ne.symm hid]

theorem Appended.pairwise_children (h : a.Appended n) (id : Nat) :
    (a.children id).Pairwise (· < ·) := by
  rw [h.children_eq_filter]
  exact List.pairwise_lt_range.filter _

theorem Appended.mem_children_iff (h : a.Appended n) {c : Nat} :
    c ∈ a.children id ↔ a.parent? c = some id := by
  rw [h.children_eq_filter, List.mem_filter, List.mem_range, beq_iff_eq]
  constructor
  · intro hc
    exact hc.2
  · intro hc
    exact ⟨lt_size_of_parent?_eq_some hc, hc⟩

end Arena
end ChatMarkup
