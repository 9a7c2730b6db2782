import ChatMarkup.Proofs.Document.Forest
import ChatMarkup.Table.Flatten
import Mathlib.Data.List.Forall2

namespace ChatMarkup

section Pairs

variable {α β γ δ : Type} {R : α → β → Prop} {S : γ → δ → Prop} {l : List α} {m : List β}

theorem forall₂_flatMap {f : α → List γ} {g : β → List δ} (h : List.Forall₂ R l m)
    (hfg : ∀ a ∈ l, ∀ b, R a b → List.Forall₂ S (f a) (g b)) :
    List.Forall₂ S (l.flatMap f) (m.flatMap g) := by
  induction h with
  | nil => exact List.Forall₂.nil
  | @cons a b l m hab _ ih =>
    rw [List.flatMap_cons, List.flatMap_cons]
    have hfirst := hfg a List.mem_cons_self b hab
    have hrest := ih fun a ha => hfg a (List.mem_cons_of_mem _ ha)
    exact List.rel_append hfirst hrest

theorem map_eq_of_forall₂ {f : α → γ} {g : β → γ} (h : List.Forall₂ R l m)
    (hfg : ∀ a b, R a b → f a = g b) : l.map f = m.map g := by
  induction h with
  | nil => rfl
  | cons hab _ ih => rw [List.map_cons, List.map_cons, hfg _ _ hab, ih]

theorem flatMap_eq_of_forall₂ {f : α → List γ} {g : β → List γ} (h : List.Forall₂ R l m)
    (hfg : ∀ a ∈ l, ∀ b, R a b → f a = g b) : l.flatMap f = m.flatMap g := by
  rw [← List.forall₂_eq_eq_eq]
  apply forall₂_flatMap h
  intro a ha b hab
  rw [List.forall₂_eq_eq_eq]
  exact hfg a ha b hab

theorem exists_mem_of_forall₂ {a : α} (h : List.Forall₂ R l m) (ha : a ∈ l) : ∃ b ∈ m, R a b := by
  induction h with
  | nil => cases ha
  | @cons a' b l m hab _ ih =>
    obtain rfl | ha := List.mem_cons.mp ha
    · exact ⟨b, List.mem_cons_self, hab⟩
    · obtain ⟨b', hb', hab'⟩ := ih ha
      exact ⟨b', List.mem_cons_of_mem _ hb', hab'⟩

theorem isEmpty_eq_of_forall₂ (h : List.Forall₂ R l m) : l.isEmpty = m.isEmpty := by
  cases h <;> rfl

theorem getElem?_of_forall₂ (h : List.Forall₂ R l m) (k : Nat) :
    (l[k]? = none ∧ m[k]? = none) ∨ ∃ a b, l[k]? = some a ∧ m[k]? = some b ∧ R a b := by
  induction h generalizing k with
  | nil => exact Or.inl ⟨rfl, rfl⟩
  | @cons a b l m hab _ ih =>
    cases k with
    | zero => exact Or.inr ⟨a, b, rfl, rfl, hab⟩
    | succ k => exact ih k

end Pairs

namespace Document

variable {d e : Document} {i : d.Id} {j : e.Id}

def Twin (i : d.Id) (j : e.Id) : Prop := d.toTree i = e.toTree j

theorem Twin.node (h : Twin i j) : d.node i = e.node j := by
  rw [Twin, toTree_eq, toTree_eq] at h
  exact (Tree.node.inj h).1

theorem forall₂_twin_iff {l : List d.Id} {m : List e.Id} :
    List.Forall₂ Twin l m ↔ l.map d.toTree = m.map e.toTree := by
  rw [← List.forall₂_eq_eq_eq, List.forall₂_map_left_iff, List.forall₂_map_right_iff]
  rfl

theorem Twin.children (h : Twin i j) : List.Forall₂ Twin (d.children i) (e.children j) := by
  rw [Twin, toTree_eq, toTree_eq] at h
  exact forall₂_twin_iff.mpr (Tree.node.inj h).2

theorem Twin.cellText (h : Twin i j) : d.cellText i = e.cellText j := by
  induction i using childInduction generalizing j with
  | step i ih =>
    cases hown : hasOwnText (d.node i) with
    | true =>
      rw [Document.cellText, Document.cellText, h.node]
      rw [h.node] at hown
      cases hn : e.node j <;> first | rfl | (rw [hn] at hown; cases hown)
    | false =>
      have hown' : hasOwnText (e.node j) = false := by rw [← h.node, hown]
      rw [cellText_eq _ hown, cellText_eq _ hown']
      exact flatMap_eq_of_forall₂ h.children fun c hc c' hcc => ih c hc hcc

theorem forall₂_filter_node {l : List d.Id} {m : List e.Id} (h : List.Forall₂ Twin l m)
    (node : Node) :
    List.Forall₂ Twin (l.filter (d.node · = node)) (m.filter (e.node · = node)) := by
  apply List.rel_filter _ h
  intro a b hab
  dsimp only
  rw [hab.node]

theorem Twin.rowsOf (h : Twin i j) : List.Forall₂ Twin (d.rowsOf i) (e.rowsOf j) :=
  forall₂_filter_node h.children _

theorem Twin.sectionRows (h : Twin i j) (kind : Node) :
    List.Forall₂ Twin (d.sectionRows i kind) (e.sectionRows j kind) :=
  forall₂_flatMap (forall₂_filter_node h.children kind) fun _ _ _ hab => hab.rowsOf

theorem Twin.bodyRows (h : Twin i j) : List.Forall₂ Twin (d.bodyRows i) (e.bodyRows j) := by
  apply forall₂_flatMap h.children
  intro a _ b hab
  rw [hab.node]
  cases e.node b with
  | tableBody => exact hab.rowsOf
  | tableRow => exact List.Forall₂.cons hab List.Forall₂.nil
  | _ => exact List.Forall₂.nil

theorem Twin.startsWithRow (h : Twin i j) : d.startsWithRow i = e.startsWithRow j := by
  rw [Document.startsWithRow, Document.startsWithRow]
  have hchildren := h.children
  cases hl : d.children i with
  | nil =>
    rw [hl, List.forall₂_nil_left_iff] at hchildren
    rw [hchildren]
  | cons c l =>
    rw [hl, List.forall₂_cons_left_iff] at hchildren
    obtain ⟨c', m, hcc, -, hm⟩ := hchildren
    rw [hm]
    dsimp only
    rw [hcc.node]

theorem Twin.collectRows (h : Twin i j) :
    List.Forall₂ Twin (d.collectRows i).1 (e.collectRows j).1 ∧
      (d.collectRows i).2 = (e.collectRows j).2 := by
  have hhead := h.sectionRows .tableHeader
  have hfoot := h.sectionRows .tableFooter
  refine ⟨List.rel_append (List.rel_append hhead h.bodyRows) hfoot, ?_⟩
  rw [Document.collectRows, Document.collectRows]
  dsimp only
  rw [isEmpty_eq_of_forall₂ hhead, h.startsWithRow]

theorem gridCell_eq_of_forall₂ {l : List d.Id} {m : List e.Id} (h : List.Forall₂ Twin l m) :
    d.gridCell l = e.gridCell m := by
  funext k
  rw [gridCell, gridCell]
  obtain ⟨hl, hm⟩ | ⟨a, b, hl, hm, hab⟩ := getElem?_of_forall₂ h k
  · rw [hl, hm]
  · rw [hl, hm]
    dsimp only
    rw [hab.node, flatMap_eq_of_forall₂ hab.children fun _ _ _ hcc => hcc.cellText]

theorem Twin.grid? (h : Twin i j) : d.grid? i = e.grid? j := by
  obtain ⟨hrows, hheader⟩ := h.collectRows
  have hlengths : (d.collectRows i).1.map (fun row => (d.children row).length) =
      (e.collectRows j).1.map (fun row => (e.children row).length) :=
    map_eq_of_forall₂ hrows fun a b hab => hab.children.length_eq
  have hcells : ∀ columns, (d.collectRows i).1.map
        (fun row => (List.range columns).map (d.gridCell (d.children row))) =
      (e.collectRows j).1.map
        (fun row => (List.range columns).map (e.gridCell (e.children row))) := by
    intro columns
    apply map_eq_of_forall₂ hrows
    intro a b hab
    rw [gridCell_eq_of_forall₂ hab.children]
  rw [Document.grid?, Document.grid?]
  dsimp only
  rw [isEmpty_eq_of_forall₂ hrows, hlengths, hheader, hcells]

/-- A table is rendered from its tree alone. -/
theorem Twin.renderTable (h : Twin i j) (o : TableOptions) :
    d.renderTable i o = e.renderTable j o := by
  rw [Document.renderTable, Document.renderTable, h.grid?]

end Document
end ChatMarkup
