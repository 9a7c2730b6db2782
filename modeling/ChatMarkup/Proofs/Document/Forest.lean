import ChatMarkup.Document.Tree
import ChatMarkup.Proofs.Document.Order

namespace ChatMarkup
namespace Document

def toTree (d : Document) (id : d.Id) : Tree :=
  .node (d.node id) ((d.children id).attach.map fun c => toTree d c.val)
termination_by d.size - id.val
decreasing_by
  have := d.val_lt_of_mem_children c.property
  have := c.val.isLt
  omega

def forest (d : Document) : List Tree := (d.children d.root).map d.toTree

variable {d e f : Document} {id parent : d.Id}

theorem toTree_eq (id : d.Id) :
    d.toTree id = .node (d.node id) ((d.children id).map d.toTree) := by
  rw [toTree]
  simp only [List.map_subtype, List.unattach_attach]

theorem val_newest_append (d : Document) (parent : d.Id) (node : Node) :
    (d.append parent node).newest.val = d.size := by
  change (d.append parent node).size - 1 = d.size
  rw [size_append, Nat.add_sub_cancel]

theorem arena_append (d : Document) (parent : d.Id) (node : Node) :
    (d.append parent node).arena = d.arena.append parent.val node := rfl

theorem val_ne_size (id : d.Id) : id.val ≠ d.arena.size := Nat.ne_of_lt id.isLt

section Append

variable (d) (parent : d.Id) (node : Node) (h : d.size ≤ (d.append parent node).size)

theorem node_append_castLE (id : d.Id) :
    (d.append parent node).node (id.castLE h) = d.node id := by
  have hnode := node?_val (id.castLE h)
  rw [Fin.val_castLE, arena_append, Arena.node?_append parent.isLt, if_neg (val_ne_size id),
    node?_val] at hnode
  exact (Option.some.inj hnode).symm

theorem node_append_newest : (d.append parent node).node (d.append parent node).newest = node := by
  have hsize : d.size = d.arena.size := rfl
  have hnode := node?_val (d.append parent node).newest
  rw [val_newest_append, arena_append, Arena.node?_append parent.isLt, if_pos hsize] at hnode
  exact (Option.some.inj hnode).symm

theorem children_append_castLE (id : d.Id) :
    (d.append parent node).children (id.castLE h) =
      (d.children id).map (Fin.castLE h) ++
        if id = parent then [(d.append parent node).newest] else [] := by
  apply List.map_injective_iff.mpr fun _ _ => Fin.ext
  have hvals : Fin.val ∘ Fin.castLE h = Fin.val := rfl
  have hnewest := d.val_newest_append parent node
  rw [List.map_append, List.map_map, hvals, map_val_children, map_val_children, Fin.val_castLE,
    arena_append, Arena.children_append parent.isLt]
  congr 1
  by_cases hid : id = parent
  · rw [if_pos hid, if_pos (congrArg Fin.val hid), List.map_singleton]
    exact congrArg (fun n => [n]) hnewest.symm
  · rw [if_neg hid, if_neg fun hval => hid (Fin.ext hval), List.map_nil]

theorem children_append_newest :
    (d.append parent node).children (d.append parent node).newest = [] := by
  rw [List.eq_nil_iff_forall_not_mem]
  intro c hc
  have hlt := val_lt_of_mem_children _ hc
  have hnewest := d.val_newest_append parent node
  have hsize := d.size_append parent node
  have := c.isLt
  omega

end Append

/-- The document `e` comes from the document `d` by adding the trees `ts` below `parent`: the nodes
of `d` stay, and only `parent` has new children. -/
structure Grown (d : Document) (parent : d.Id) (ts : List Tree) (e : Document)
    (h : d.size ≤ e.size) : Prop where
  node : ∀ id, e.node (id.castLE h) = d.node id
  kept : ∀ id ≠ parent, e.children (id.castLE h) = (d.children id).map (Fin.castLE h)
  added : ∃ new : List e.Id, e.children (parent.castLE h) =
    (d.children parent).map (Fin.castLE h) ++ new ∧ new.map e.toTree = ts

theorem Grown.toTree_castLE {ts : List Tree} {h : d.size ≤ e.size} (hg : Grown d parent ts e h)
    (hid : parent < id) : e.toTree (id.castLE h) = d.toTree id := by
  induction id using childInduction with
  | step id ih =>
    have hchildren : (d.children id).map (e.toTree ∘ Fin.castLE h) =
        (d.children id).map d.toTree := by
      apply List.map_congr_left
      intro c hc
      have hlt : id < c := d.val_lt_of_mem_children hc
      exact ih c hc (Fin.lt_trans hid hlt)
    rw [toTree_eq, toTree_eq, hg.node, hg.kept id (Fin.ne_of_gt hid), List.map_map, hchildren]

theorem Grown.nil (d : Document) (parent : d.Id) : Grown d parent [] d (Nat.le_refl _) where
  node := fun _ => rfl
  kept := fun _ _ => (List.map_id _).symm
  added := ⟨[], by rw [List.append_nil]; exact (List.map_id _).symm, rfl⟩

theorem Grown.append {ts us : List Tree} {h : d.size ≤ e.size} {k : e.size ≤ f.size}
    (hg : Grown d parent ts e h) (hk : Grown e (parent.castLE h) us f k) :
    Grown d parent (ts ++ us) f (Nat.le_trans h k) := by
  obtain ⟨new, hnew, htrees⟩ := hg.added
  obtain ⟨new', hnew', htrees'⟩ := hk.added
  refine ⟨?_, ?_, new.map (Fin.castLE k) ++ new', ?_, ?_⟩
  · intro id
    exact (hk.node _).trans (hg.node id)
  · intro id hid
    have hid' : id.castLE h ≠ parent.castLE h := fun heq => hid (Fin.ext (congrArg Fin.val heq :))
    have hkept := hk.kept _ hid'
    rw [hg.kept id hid, List.map_map] at hkept
    exact hkept
  · rw [hnew, List.map_append, List.map_map, List.append_assoc] at hnew'
    exact hnew'
  · have hsame : ∀ c ∈ new, f.toTree (c.castLE k) = e.toTree c := by
      intro c hc
      have hchild : c ∈ e.children (parent.castLE h) := by
        rw [hnew]
        exact List.mem_append_right _ hc
      exact hk.toTree_castLE (e.val_lt_of_mem_children hchild)
    rw [List.map_append, List.map_map, htrees', ← htrees]
    congr 1
    exact List.map_congr_left hsame

theorem Grown.tree {content : Node} {children : List Tree}
    {h : d.size ≤ (d.append parent content).size}
    {k : (d.append parent content).size ≤ e.size}
    (hk : Grown (d.append parent content) (d.append parent content).newest children e k) :
    Grown d parent [.node content children] e (Nat.le_trans h k) := by
  have hne : ∀ id : d.Id, id.castLE h ≠ (d.append parent content).newest := by
    intro id heq
    have hval := congrArg Fin.val heq
    rw [val_newest_append, Fin.val_castLE] at hval
    exact Nat.ne_of_lt id.isLt hval
  have hchildren : ∀ id : d.Id, e.children (id.castLE (Nat.le_trans h k)) =
      (d.children id).map (Fin.castLE (Nat.le_trans h k)) ++
        if id = parent then [(d.append parent content).newest.castLE k] else [] := by
    intro id
    have hkept := hk.kept _ (hne id)
    rw [children_append_castLE, List.map_append, List.map_map] at hkept
    split_ifs at hkept ⊢ <;> exact hkept
  obtain ⟨new, hnew, htrees⟩ := hk.added
  rw [children_append_newest, List.map_nil, List.nil_append] at hnew
  refine ⟨?_, ?_, [(d.append parent content).newest.castLE k], ?_, ?_⟩
  · intro id
    exact (hk.node _).trans (node_append_castLE d parent content h id)
  · intro id hid
    rw [hchildren id, if_neg hid, List.append_nil]
  · rw [hchildren parent, if_pos rfl]
  · rw [List.map_singleton, toTree_eq, hk.node, node_append_newest, hnew, htrees]

mutual

theorem grown_addTrees (d : Document) (parent : d.Id) (ts : List Tree) :
    Grown d parent ts (d.addTrees parent ts).val (d.addTrees parent ts).property := by
  match ts with
  | [] => exact Grown.nil d parent
  | t :: ts =>
    have hg := grown_addTree d parent t
    have hk := grown_addTrees (d.addTree parent t).val
      (parent.castLE (d.addTree parent t).property) ts
    rw [addTrees]
    exact hg.append hk

theorem grown_addTree (d : Document) (parent : d.Id) (t : Tree) :
    Grown d parent [t] (d.addTree parent t).val (d.addTree parent t).property := by
  match t with
  | .node content children =>
    have hk := grown_addTrees (d.append parent content) (d.append parent content).newest children
    have h : d.size ≤ (d.append parent content).size := by rw [size_append]; omega
    rw [addTree]
    exact Grown.tree (h := h) hk

end

/-- A document built from some trees has these trees. -/
theorem forest_ofTrees (ts : List Tree) : (ofTrees ts).forest = ts := by
  obtain ⟨new, hnew, htrees⟩ := (grown_addTrees Document.new Document.new.root ts).added
  have hnone : Document.new.children Document.new.root = [] := rfl
  rw [hnone, List.map_nil, List.nil_append] at hnew
  have hroot : (ofTrees ts).children (ofTrees ts).root = new := hnew
  rw [forest, hroot]
  exact htrees

end Document
end ChatMarkup
