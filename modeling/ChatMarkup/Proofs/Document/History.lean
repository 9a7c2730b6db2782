import ChatMarkup.Document.Arena
import Mathlib.Data.List.Nodup
import Mathlib.Logic.Relation

namespace ChatMarkup
namespace Arena

/-- An ordered tree: one root, parents that are older than their children and agree with the lists
of children, and a path from the root to every node. -/
structure IsOrderedTree (a : Arena) : Prop where
  root_node : a.node? 0 = some .document
  root_parent : a.parent? 0 = none
  parent : ∀ id, 0 < id → id < a.size → ∃ p < id, a.parent? id = some p
  inverse : ∀ p c, c ∈ a.children p ↔ a.parent? c = some p
  once : ∀ id, 0 < id → id < a.size → ((List.range a.size).flatMap a.children).count id = 1
  increasing : ∀ id, (a.children id).Pairwise (· < ·)
  reachable : ∀ id < a.size, Relation.ReflTransGen (fun p c => c ∈ a.children p) 0 id

/-- The arena `b` has come from `a` by appending a node below `parent`. -/
structure IsAppend (a : Arena) (parent : Nat) (node : Node) (b : Arena) : Prop where
  size : b.size = a.size + 1
  kept_node : ∀ id < a.size, b.node? id = a.node? id
  kept_parent : ∀ id < a.size, b.parent? id = a.parent? id
  kept_children : ∀ id < a.size, id ≠ parent → b.children id = a.children id
  parent_children : b.children parent = a.children parent ++ [a.size]
  new_node : b.node? a.size = some node
  new_parent : b.parent? a.size = some parent
  new_children : b.children a.size = []

variable {a : Arena} {n : Nat}

theorem Appended.exists_parent?_lt (h : a.Appended n) {id : Nat} (hpos : 0 < id)
    (hid : id < a.size) : ∃ p < id, a.parent? id = some p := by
  obtain ⟨p, hp⟩ := h.exists_parent? hpos hid
  exact ⟨p, h.parent?_lt hp, hp⟩

theorem Appended.nodup_flatMap_children (h : a.Appended n) :
    ((List.range a.size).flatMap a.children).Nodup := by
  rw [List.nodup_flatMap]
  refine ⟨fun p _ => (h.pairwise_children p).imp Nat.ne_of_lt, List.nodup_range.imp ?_⟩
  intro p q hne c hp hq
  rw [h.mem_children_iff] at hp hq
  exact hne (Option.some.inj (hp.symm.trans hq))

theorem Appended.count_flatMap_children (h : a.Appended n) {id : Nat} (hpos : 0 < id)
    (hid : id < a.size) : ((List.range a.size).flatMap a.children).count id = 1 := by
  obtain ⟨p, hlt, hp⟩ := h.exists_parent?_lt hpos hid
  have hmem : p ∈ List.range a.size := List.mem_range.mpr (Nat.lt_trans hlt hid)
  exact List.count_eq_one_of_mem h.nodup_flatMap_children
    (List.mem_flatMap.mpr ⟨p, hmem, h.mem_children_iff.mpr hp⟩)

theorem Appended.reflTransGen_children (h : a.Appended n) (id : Nat) (hid : id < a.size) :
    Relation.ReflTransGen (fun p c => c ∈ a.children p) 0 id := by
  induction id using Nat.strongRecOn with
  | _ id ih =>
    by_cases hpos : 0 < id
    · obtain ⟨p, hlt, hp⟩ := h.exists_parent?_lt hpos hid
      have hbelow := ih p hlt (Nat.lt_trans hlt hid)
      exact hbelow.tail (h.mem_children_iff.mpr hp)
    · have hroot : id = 0 := by omega
      rw [hroot]

theorem Appended.isOrderedTree (h : a.Appended n) : a.IsOrderedTree where
  root_node := h.node?_zero
  root_parent := h.parent?_zero
  parent _ := h.exists_parent?_lt
  inverse _ _ := h.mem_children_iff
  once _ := h.count_flatMap_children
  increasing := h.pairwise_children
  reachable := h.reflTransGen_children

theorem Appended.isEmpty_iff (h : a.Appended n) : a.isEmpty = true ↔ n = 0 := by
  induction h with
  | new => exact ⟨fun _ => rfl, fun _ => rfl⟩
  | @append n a h parent hparent node ih =>
    have hsize := h.size_eq
    rw [isEmpty, children_append hparent, List.isEmpty_iff, List.append_eq_nil_iff]
    rw [isEmpty, List.isEmpty_iff] at ih
    constructor
    · rintro ⟨hold, hnew⟩
      have hfirst : n = 0 := ih.mp hold
      -- There is nothing but the root yet, so the node goes directly below it.
      rw [if_pos (by omega)] at hnew
      cases hnew
    · intro hn
      cases hn

theorem isAppend_append {parent : Nat} (hparent : parent < a.size) (node : Node) :
    IsAppend a parent node (a.append parent node) where
  size := size_append
  kept_node id hid := by rw [node?_append hparent, if_neg (Nat.ne_of_lt hid)]
  kept_parent id hid := by rw [parent?_append hparent, if_neg (Nat.ne_of_lt hid)]
  kept_children id _ hne := by rw [children_append hparent, if_neg hne, List.append_nil]
  parent_children := by rw [children_append hparent, if_pos rfl]
  new_node := by rw [node?_append hparent, if_pos rfl]
  new_parent := by rw [parent?_append hparent, if_pos rfl]
  new_children := by
    have hne : a.size ≠ parent := Nat.ne_of_gt hparent
    rw [children_append hparent, children_eq_nil (Nat.le_refl _), if_neg hne, List.append_nil]

/-- Whatever is appended, and below whichever nodes, the arena is an ordered tree with one node more
than there were appends; and the next append adds one node at the end of the children of its parent
and leaves all else as it is. -/
theorem isOrderedTree_of_appended (h : a.Appended n) :
    a.IsOrderedTree ∧ a.size = 1 + n ∧ (a.isEmpty = true ↔ n = 0) ∧
    ∀ parent < a.size, ∀ node, IsAppend a parent node (a.append parent node) :=
  ⟨h.isOrderedTree, h.size_eq, h.isEmpty_iff, fun _ hparent node => isAppend_append hparent node⟩

/-- The third node goes below the first one, in front of the second. -/
theorem isOrderedTree_of_appended_out_of_order :
    let a := ((new.append 0 .paragraph).append 0 .paragraph).append 1 .emph
    a.Appended 3 ∧ (List.range a.size).map a.children = [[1, 2], [3], [], []] ∧
      a.IsOrderedTree ∧ a.size = 1 + 3 ∧ (a.isEmpty = true ↔ 3 = 0) ∧
      2 < a.size ∧ IsAppend a 2 .strong (a.append 2 .strong) := by
  intro a
  have h : a.Appended 3 :=
    ((Appended.new.append (by decide) .paragraph).append (by decide) .paragraph).append
      (by decide) .emph
  have hchildren : (List.range a.size).map a.children = [[1, 2], [3], [], []] := by decide +kernel
  obtain ⟨htree, hsize, hempty, happend⟩ := isOrderedTree_of_appended h
  have hparent : 2 < a.size := by omega
  exact ⟨h, hchildren, htree, hsize, hempty, hparent, happend 2 hparent _⟩

end Arena
end ChatMarkup
