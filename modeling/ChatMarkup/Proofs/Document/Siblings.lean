import ChatMarkup.Proofs.Document.Order
import Mathlib.Data.List.Nodup

namespace ChatMarkup
namespace Document

variable {d : Document} {id p a b c x : d.Id}

theorem le_of_mem_preorderFrom (h : x ∈ d.preorderFrom id) : id.val ≤ x.val := by
  induction id using childInduction with
  | step id ih =>
    rw [preorderFrom_eq, List.mem_cons, List.mem_flatMap] at h
    obtain rfl | ⟨c, hc, hx⟩ := h
    · exact Nat.le_refl _
    · have hlt := d.val_lt_of_mem_children hc
      have hle := ih c hc hx
      omega

theorem not_mem_preorderFrom_of_mem_children (hc : c ∈ d.children id) :
    id ∉ d.preorderFrom c := by
  intro h
  have hlt := d.val_lt_of_mem_children hc
  have hle := le_of_mem_preorderFrom h
  omega

theorem val_lt_of_mem_ancestors (h : a ∈ d.ancestors x) : a.val < x.val := by
  induction x using parentInduction with
  | root =>
    rw [ancestors_root] at h
    cases h
  | step q c hc ih =>
    have hlt := d.val_lt_of_mem_children hc
    rw [ancestors_of_mem_children hc, List.mem_cons] at h
    obtain rfl | h := h
    · exact hlt
    · have hle := ih h
      omega

theorem nodup_children (d : Document) (id : d.Id) : (d.children id).Nodup := by
  obtain ⟨n, h⟩ := d.built
  apply List.Nodup.of_map Fin.val
  rw [map_val_children]
  exact (h.pairwise_children id.val).imp Nat.ne_of_lt

theorem eq_of_mem_preorderFrom (ha : a ∈ d.children p) (hb : b ∈ d.children p)
    (hxa : x ∈ d.preorderFrom a) (hxb : x ∈ d.preorderFrom b) : a = b := by
  have habove : ∀ {c q e : d.Id}, c ∈ d.children q → c ∈ d.preorderFrom e →
      c = e ∨ q ∈ d.preorderFrom e := by
    intro c q e hc he
    rw [mem_preorderFrom_iff, ancestors_of_mem_children hc, List.mem_cons] at he
    rw [mem_preorderFrom_iff]
    obtain he | rfl | he := he
    · exact Or.inl he
    · exact Or.inr (Or.inl rfl)
    · exact Or.inr (Or.inr he)
  have hparent : ∀ {q e : d.Id}, e ∈ d.children q → e ∈ d.children p → q = p := by
    intro q e hq hp
    have h := (d.mem_children_iff).mp hq
    rw [(d.mem_children_iff).mp hp] at h
    exact (Option.some.inj h).symm
  induction x using parentInduction with
  | root =>
    have hlt := d.val_lt_of_mem_children ha
    have hle := le_of_mem_preorderFrom hxa
    have hroot : d.root.val = 0 := rfl
    omega
  | step q c hc ih =>
    obtain hca | hqa := habove hc hxa
    · obtain hcb | hqb := habove hc hxb
      · exact hca.symm.trans hcb
      · rw [hca] at hc
        rw [hparent hc ha] at hqb
        exact absurd hqb (not_mem_preorderFrom_of_mem_children hb)
    · obtain hcb | hqb := habove hc hxb
      · rw [hcb] at hc
        rw [hparent hc hb] at hqa
        exact absurd hqa (not_mem_preorderFrom_of_mem_children ha)
      · exact ih hqa hqb

/-- Of two nodes one stands above the other, or they stand below two children of one node. -/
theorem kinship (a b : d.Id) : a = b ∨ a ∈ d.ancestors b ∨ b ∈ d.ancestors a ∨
    ∃ p, ∃ x ∈ d.children p, ∃ y ∈ d.children p,
      x ≠ y ∧ a ∈ d.preorderFrom x ∧ b ∈ d.preorderFrom y := by
  induction a using parentInduction with
  | root =>
    obtain hroot | habove := mem_preorderFrom_iff.mp (d.mem_preorder b)
    · exact Or.inl hroot.symm
    · exact Or.inr (Or.inl habove)
  | step p c hc ih =>
    have hself := mem_preorderFrom_self c
    rw [ancestors_of_mem_children hc, List.mem_cons]
    obtain rfl | hbelow | habove | ⟨q, x, hx, y, hy, hne, hpx, hby⟩ := ih
    · exact Or.inr (Or.inr (Or.inl (Or.inl rfl)))
    · have hb := mem_preorderFrom_iff.mpr (Or.inr hbelow)
      rw [preorderFrom_eq, List.mem_cons, List.mem_flatMap] at hb
      obtain rfl | ⟨y, hy, hby⟩ := hb
      · exact absurd (val_lt_of_mem_ancestors hbelow) (Nat.lt_irrefl _)
      by_cases hcy : c = y
      · subst hcy
        obtain rfl | hcb := mem_preorderFrom_iff.mp hby
        · exact Or.inl rfl
        · exact Or.inr (Or.inl hcb)
      · exact Or.inr (Or.inr (Or.inr ⟨p, c, hc, y, hy, hcy, hself, hby⟩))
    · exact Or.inr (Or.inr (Or.inl (Or.inr habove)))
    · have hcx := mem_preorderFrom_trans (mem_preorderFrom_of_child hc hself) hpx
      exact Or.inr (Or.inr (Or.inr ⟨q, x, hx, y, hy, hne, hcx, hby⟩))

def siblingsBefore (d : Document) (id : d.Id) : List d.Id :=
  match d.parent? id with
  | none => []
  | some p => (d.children p).takeWhile (· != id)

theorem siblingsBefore_eq {before after : List d.Id}
    (h : d.children p = before ++ c :: after) : d.siblingsBefore c = before := by
  have hc : c ∈ d.children p := by
    rw [h]
    exact List.mem_append_right _ List.mem_cons_self
  have hnodup := d.nodup_children p
  rw [h] at hnodup
  have hnot : ∀ x ∈ before, (x != c) = true := by
    intro x hx
    have hne := (List.nodup_append.mp hnodup).2.2 x hx c List.mem_cons_self
    simpa using hne
  rw [siblingsBefore, (d.mem_children_iff).mp hc]
  dsimp only
  rw [h, List.takeWhile_append_of_pos hnot, List.takeWhile_cons_of_neg (by simp),
    List.append_nil]

end Document
end ChatMarkup
