import ChatMarkup.Document.Arena

namespace ChatMarkup

/-- A document: an arena that has come about by appending, with node 0 as its root. -/
structure Document where
  arena : Arena
  built : ∃ n, arena.Appended n

namespace Document

def new : Document := ⟨.new, 0, .new⟩

instance : Inhabited Document := ⟨new⟩

def size (d : Document) : Nat := d.arena.size

abbrev Id (d : Document) := Fin d.size

variable (d : Document)

theorem size_pos : 0 < d.size := by
  obtain ⟨n, h⟩ := d.built
  rw [size, h.size_eq]
  omega

def root : d.Id := ⟨0, d.size_pos⟩

def node (id : d.Id) : Node :=
  have h : id.val < d.arena.entries.size := id.isLt
  d.arena.entries[id.val].node

def kind (id : d.Id) : Kind := (d.node id).kind

theorem lt_size_of_parent? {id p : Nat} (h : d.arena.parent? id = some p) : p < d.size := by
  obtain ⟨n, hn⟩ := d.built
  have hlt := hn.parent?_lt h
  have hid := Arena.lt_size_of_parent?_eq_some h
  exact Nat.lt_trans hlt hid

theorem lt_size_of_mem_children {id c : Nat} (h : c ∈ d.arena.children id) : c < d.size := by
  obtain ⟨n, hn⟩ := d.built
  exact Arena.lt_size_of_parent?_eq_some (hn.mem_children_iff.mp h)

/-- The parent of a node; only the root has none. -/
def parent? (id : d.Id) : Option d.Id :=
  (d.arena.parent? id.val).pmap Fin.mk fun _ h => d.lt_size_of_parent? h

/-- The children of a node, oldest first. -/
def children (id : d.Id) : List d.Id :=
  (d.arena.children id.val).pmap Fin.mk fun _ h => d.lt_size_of_mem_children h

/-- Adds a node as the last child of `parent`; it becomes the newest node. -/
def append (parent : d.Id) (node : Node) : Document where
  arena := d.arena.append parent.val node
  built := by
    obtain ⟨n, h⟩ := d.built
    exact ⟨n + 1, h.append parent.isLt node⟩

def isEmpty : Bool := d.arena.isEmpty

variable {d} {id c p : d.Id}

theorem node?_val (id : d.Id) : d.arena.node? id.val = some (d.node id) := by
  have h : id.val < d.arena.entries.size := id.isLt
  rw [Arena.node?, Array.getElem?_eq_getElem h]
  rfl

theorem map_val_parent? (id : d.Id) : (d.parent? id).map Fin.val = d.arena.parent? id.val := by
  rw [parent?, Option.map_pmap, Option.pmap_eq_map, Option.map_id']

theorem map_val_children (id : d.Id) : (d.children id).map Fin.val = d.arena.children id.val := by
  rw [children, List.map_pmap, List.pmap_eq_map, List.map_id']

theorem node_root (d : Document) : d.node d.root = .document := by
  obtain ⟨n, h⟩ := d.built
  have hnode := node?_val d.root
  rw [root, h.node?_zero] at hnode
  exact (Option.some.inj hnode).symm

theorem kind_root (d : Document) : d.kind d.root = .document := by
  rw [kind, node_root]
  rfl

theorem parent?_root (d : Document) : d.parent? d.root = none := by
  obtain ⟨n, h⟩ := d.built
  have hparent := map_val_parent? d.root
  rw [root, h.parent?_zero] at hparent
  exact Option.map_eq_none_iff.mp hparent

theorem exists_parent? (h : id ≠ d.root) : ∃ p, d.parent? id = some p := by
  obtain ⟨n, hn⟩ := d.built
  have hpos : 0 < id.val := Nat.pos_of_ne_zero fun hzero => h (Fin.ext hzero)
  obtain ⟨p, hp⟩ := hn.exists_parent? hpos id.isLt
  rw [← map_val_parent?, Option.map_eq_some_iff] at hp
  obtain ⟨q, hq, -⟩ := hp
  exact ⟨q, hq⟩

variable (d)

theorem mem_children_iff : c ∈ d.children id ↔ d.parent? c = some id := by
  obtain ⟨n, h⟩ := d.built
  have hparent : d.parent? c = some id ↔ d.arena.parent? c.val = some id.val := by
    rw [← map_val_parent?]
    cases d.parent? c <;> simp [Fin.ext_iff]
  rw [hparent, ← h.mem_children_iff, ← map_val_children, List.mem_map]
  constructor
  · intro hc
    exact ⟨c, hc, rfl⟩
  · rintro ⟨x, hx, heq⟩
    cases Fin.ext heq
    exact hx

theorem val_lt_of_parent? (h : d.parent? id = some p) : p.val < id.val := by
  obtain ⟨n, hn⟩ := d.built
  apply hn.parent?_lt
  rw [← map_val_parent?, h]
  rfl

theorem val_lt_of_mem_children (h : c ∈ d.children id) : id.val < c.val :=
  d.val_lt_of_parent? (d.mem_children_iff.mp h)

/-- The proper ancestors of a node, nearest first. -/
def ancestors (id : d.Id) : List d.Id :=
  match _h : d.parent? id with
  | none => []
  | some p => p :: ancestors p
termination_by id.val
decreasing_by exact d.val_lt_of_parent? _h

def id? (n : Nat) : Option d.Id := if h : n < d.size then some ⟨n, h⟩ else none

end Document
end ChatMarkup
