import ChatMarkup.Proofs.Render.Parts

namespace ChatMarkup
namespace Document

variable {d e : Document} {f : d.Id ≃ e.Id} {o : Options}

/-- A renumbering of the nodes: it keeps the root, what stands at each node, and the children of each
node in their order. -/
structure IsRenumbering (f : d.Id ≃ e.Id) : Prop where
  root : f d.root = e.root
  node : ∀ id, e.node (f id) = d.node id
  children : ∀ id, e.children (f id) = (d.children id).map f

theorem IsRenumbering.twin (h : IsRenumbering f) (id : d.Id) : Twin id (f id) := by
  induction id using childInduction with
  | step id ih =>
    rw [Twin, toTree_eq, toTree_eq, h.node, h.children, List.map_map]
    exact congrArg _ (List.map_congr_left ih)

theorem IsRenumbering.forest_eq (h : IsRenumbering f) : e.forest = d.forest := by
  have hroot := h.children d.root
  rw [h.root] at hroot
  rw [forest, forest, hroot, List.map_map]
  exact List.map_congr_left fun id _ => (h.twin id).symm

/-- A rendering depends on the trees of a document only. -/
theorem render_eq_of_forest_eq (h : e.forest = d.forest) (o : Options) :
    render d o = render e o := by
  have hsplit : d.children d.root = d.children d.root ++ [] := (List.append_nil _).symm
  cases hout : render e o with
  | error err =>
    have hwhole : d.children d.root = [] ++ d.children d.root ++ [] := hsplit
    rw [render_eq_error_iff_refused?] at hout ⊢
    rw [refused?_of_part hwhole h]
    exact hout
  | ok out =>
    obtain ⟨p, hp, hpout, -⟩ := run_of_first hsplit h hout
    rw [Pass.render_eq, visits_eq, hp, Except.map, hpout]

end Document

open Document

/-- The order in which the nodes of a document have been appended, and so their numbers, have no part
in what it is rendered as or in why it cannot be rendered. -/
theorem render_eq_of_isRenumbering (d e : Document) (f : d.Id ≃ e.Id) (hf : IsRenumbering f)
    (o : Options) : render d o = render e o :=
  render_eq_of_forest_eq hf.forest_eq o

/-- The second paragraph of an item and the rows of a table are found again when the nodes have been
appended level by level. -/
theorem render_of_levels :
    let d := Document.ofTrees [
      .node (.listItem false '-') [.node .paragraph [], .node .paragraph []],
      .node .table [.node .tableRow [.node (.tableCell []) [.node (.text ['a']) []]]]]
    let e := ((((((Document.new.append ⟨0, by decide⟩ (.listItem false '-')).append
      ⟨0, by decide⟩ .table).append ⟨1, by decide⟩ .paragraph).append ⟨1, by decide⟩ .paragraph).append
      ⟨2, by decide⟩ .tableRow).append ⟨5, by decide⟩ (.tableCell [])).append
      ⟨6, by decide⟩ (.text ['a'])
    render d {} = .ok "\\- \n\t\n```\n| a   |\n| --- |\n```\n" ∧ render d {} = render e {} := by
  intro d e
  let there (i : d.Id) : e.Id := (e.id? ([0, 1, 3, 4, 2, 5, 6, 7].getD i.val 0)).getD e.root
  let back (j : e.Id) : d.Id := (d.id? ([0, 1, 4, 2, 3, 5, 6, 7].getD j.val 0)).getD d.root
  have hback : ∀ i, back (there i) = i := by decide +kernel
  have hthere : ∀ j, there (back j) = j := by decide +kernel
  have hroot : there d.root = e.root := by decide +kernel
  have hnode : ∀ i, e.node (there i) = d.node i := by decide +kernel
  have hchildren : ∀ i, e.children (there i) = (d.children i).map there := by decide +kernel
  have hf : IsRenumbering ⟨there, back, hback, hthere⟩ := ⟨hroot, hnode, hchildren⟩
  exact ⟨by decide +kernel, render_eq_of_isRenumbering d e _ hf {}⟩

end ChatMarkup
