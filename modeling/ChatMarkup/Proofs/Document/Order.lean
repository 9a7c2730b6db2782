import ChatMarkup.Document.Walk
import Mathlib.Data.List.Basic

namespace ChatMarkup
namespace Document

variable {d : Document}

/-- What holds of a node as soon as it holds of its children holds of every node. -/
theorem childInduction {motive : d.Id → Prop}
    (step : ∀ id, (∀ c ∈ d.children id, motive c) → motive id) (id : d.Id) : motive id :=
  step id fun c _hc => childInduction step c
termination_by d.size - id.val
decreasing_by
  have := d.val_lt_of_mem_children _hc
  have := c.isLt
  omega

theorem ancestors_of_mem_children {id c : d.Id} (h : c ∈ d.children id) :
    d.ancestors c = id :: d.ancestors id := by
  have hp := (d.mem_children_iff).mp h
  rw [ancestors]
  split
  · rename_i hn
    rw [hp] at hn
    cases hn
  · rename_i p hs
    rw [hp] at hs
    cases hs
    rfl

theorem ancestors_root : d.ancestors d.root = [] := by
  rw [ancestors]
  split
  · rfl
  · rename_i p hp
    rw [d.parent?_root] at hp
    cases hp

theorem exists_parent {id : d.Id} (h : id ≠ d.root) : ∃ p, id ∈ d.children p := by
  obtain ⟨p, hp⟩ := exists_parent? h
  exact ⟨p, d.mem_children_iff.mpr hp⟩

/-- What holds of the root, and of a node as soon as it holds of its parent, holds of every
node. -/
theorem parentInduction {motive : d.Id → Prop} (root : motive d.root)
    (step : ∀ p c, c ∈ d.children p → motive p → motive c) (id : d.Id) : motive id := by
  by_cases h : id = d.root
  · rw [h]
    exact root
  · obtain ⟨p, hp⟩ := exists_parent h
    have := d.val_lt_of_mem_children hp
    exact step p id hp (parentInduction root step p)
termination_by id.val

theorem mem_ancestors_trans {a b x : d.Id} (ha : a ∈ d.ancestors b) (hb : b ∈ d.ancestors x) :
    a ∈ d.ancestors x := by
  induction x using parentInduction with
  | root =>
    rw [ancestors_root] at hb
    cases hb
  | step p c hc ih =>
    rw [ancestors_of_mem_children hc, List.mem_cons] at hb ⊢
    obtain rfl | hb := hb
    · exact Or.inr ha
    · exact Or.inr (ih hb)

/-- The nodes from a node down, each before its children. -/
def preorderFrom (d : Document) (id : d.Id) : List d.Id :=
  id :: (d.children id).attach.flatMap fun c => preorderFrom d c.val
termination_by d.size - id.val
decreasing_by
  have := d.val_lt_of_mem_children c.property
  have := c.val.isLt
  omega

theorem preorderFrom_eq (id : d.Id) :
    d.preorderFrom id = id :: (d.children id).flatMap d.preorderFrom := by
  rw [preorderFrom]
  simp only [List.flatMap_subtype, List.unattach_attach]

def preorder (d : Document) : List d.Id := d.preorderFrom d.root

theorem mem_preorderFrom_self (id : d.Id) : id ∈ d.preorderFrom id := by
  rw [preorderFrom_eq]
  exact List.mem_cons_self

theorem mem_preorderFrom_of_child {p c x : d.Id} (hc : c ∈ d.children p)
    (hx : x ∈ d.preorderFrom c) : x ∈ d.preorderFrom p := by
  rw [preorderFrom_eq]
  exact List.mem_cons_of_mem _ (List.mem_flatMap.mpr ⟨c, hc, hx⟩)

theorem mem_preorderFrom_trans {x y z : d.Id} (hx : x ∈ d.preorderFrom y)
    (hy : y ∈ d.preorderFrom z) : x ∈ d.preorderFrom z := by
  induction z using childInduction with
  | step z ih =>
    have h := hy
    rw [preorderFrom_eq, List.mem_cons, List.mem_flatMap] at h
    obtain rfl | ⟨c, hc, hyc⟩ := h
    · exact hx
    · exact mem_preorderFrom_of_child hc (ih c hc hyc)

theorem mem_preorderFrom_iff {id x : d.Id} :
    x ∈ d.preorderFrom id ↔ x = id ∨ id ∈ d.ancestors x := by
  constructor
  · intro h
    induction id using childInduction with
    | step id ih =>
      rw [preorderFrom_eq, List.mem_cons, List.mem_flatMap] at h
      obtain h | ⟨c, hc, hx⟩ := h
      · exact Or.inl h
      · have hid : id ∈ d.ancestors c := by
          rw [ancestors_of_mem_children hc]
          exact List.mem_cons_self
        obtain rfl | hcx := ih c hc hx
        · exact Or.inr hid
        · exact Or.inr (mem_ancestors_trans hid hcx)
  · intro hex
    rcases hex with rfl | h
    · exact mem_preorderFrom_self x
    · induction x using parentInduction with
      | root =>
        rw [ancestors_root] at h
        cases h
      | step p c hc ih =>
        have hcp := mem_preorderFrom_of_child hc (mem_preorderFrom_self c)
        rw [ancestors_of_mem_children hc, List.mem_cons] at h
        obtain rfl | h := h
        · exact hcp
        · exact mem_preorderFrom_trans hcp (ih h)

theorem mem_ancestors_of_child {p c x : d.Id} (hc : c ∈ d.children p)
    (hx : x ∈ d.preorderFrom c) : p ∈ d.ancestors x := by
  have hpc : p ∈ d.ancestors c := by
    rw [ancestors_of_mem_children hc]
    exact List.mem_cons_self
  obtain rfl | hcx := mem_preorderFrom_iff.mp hx
  · exact hpc
  · exact mem_ancestors_trans hpc hcx

theorem mem_preorder (x : d.Id) : x ∈ d.preorder := by
  induction x using parentInduction with
  | root => exact mem_preorderFrom_self _
  | step p c hc ih =>
    exact mem_preorderFrom_trans (mem_preorderFrom_of_child hc (mem_preorderFrom_self c)) ih

/-- The visits that a walk makes from a node down: a leaf is entered only, and nothing below the
kinds `skip` is visited. -/
def visitsFrom (d : Document) (skip : Kind → Bool) (id : d.Id) : List d.Visit :=
  ⟨id, true⟩ ::
    if (d.kind id).isLeaf then []
    else
      (if skip (d.kind id) then []
        else (d.children id).attach.flatMap fun c => visitsFrom d skip c.val) ++ [⟨id, false⟩]
termination_by d.size - id.val
decreasing_by
  have := d.val_lt_of_mem_children c.property
  have := c.val.isLt
  omega

theorem visitsFrom_eq (skip : Kind → Bool) (id : d.Id) :
    d.visitsFrom skip id = ⟨id, true⟩ ::
      if (d.kind id).isLeaf then []
      else
        (if skip (d.kind id) then [] else (d.children id).flatMap (d.visitsFrom skip)) ++
          [⟨id, false⟩] := by
  rw [visitsFrom]
  simp only [List.flatMap_subtype, List.unattach_attach]

def visits (d : Document) (skip : Kind → Bool) : List d.Visit := d.visitsFrom skip d.root

theorem visitsFrom_congr {skip skip' : Kind → Bool} (h : ∀ id, skip (d.kind id) = skip' (d.kind id))
    (id : d.Id) : d.visitsFrom skip id = d.visitsFrom skip' id := by
  induction id using childInduction with
  | step id ih =>
    rw [visitsFrom_eq, visitsFrom_eq, h id, List.flatMap_congr ih]

/-- Whether a walk that skips below the kinds `skip` comes to a node: no leaf and no skipped node
stands above it. -/
def isReached (d : Document) (skip : Kind → Bool) (id : d.Id) : Bool :=
  (d.ancestors id).all fun a => !((d.kind a).isLeaf || skip (d.kind a))

theorem isReached_root (skip : Kind → Bool) : d.isReached skip d.root = true := by
  rw [isReached, ancestors_root]
  rfl

theorem isReached_of_mem_children {skip : Kind → Bool} {id c : d.Id} (hc : c ∈ d.children id) :
    d.isReached skip c =
      (!((d.kind id).isLeaf || skip (d.kind id)) && d.isReached skip id) := by
  rw [isReached, ancestors_of_mem_children hc, List.all_cons, isReached]

theorem isReached_of_mem_ancestors {skip : Kind → Bool} {id x : d.Id} (hx : id ∈ d.ancestors x)
    (hid : ((d.kind id).isLeaf || skip (d.kind id)) = true) : d.isReached skip x = false := by
  rw [isReached, List.all_eq_false]
  exact ⟨id, hx, by simp [hid]⟩

def Visit.entered? (v : d.Visit) : Option d.Id := if v.entering then some v.id else none

theorem entered_visitsFrom (skip : Kind → Bool) {id : d.Id} (h : d.isReached skip id = true) :
    (d.visitsFrom skip id).filterMap Visit.entered? =
      (d.preorderFrom id).filter (d.isReached skip) := by
  induction id using childInduction with
  | step id ih =>
    rw [visitsFrom_eq, preorderFrom_eq, List.filter_cons_of_pos h,
      List.filterMap_cons_some (b := id) (by rfl)]
    apply congrArg (id :: ·)
    by_cases hcut : ((d.kind id).isLeaf || skip (d.kind id)) = true
    · have hbelow : ((d.children id).flatMap d.preorderFrom).filter (d.isReached skip) = [] := by
        rw [List.filter_eq_nil_iff]
        intro x hx
        obtain ⟨c, hc, hxc⟩ := List.mem_flatMap.mp hx
        rw [isReached_of_mem_ancestors (mem_ancestors_of_child hc hxc) hcut]
        exact Bool.false_ne_true
      rw [hbelow]
      cases hl : (d.kind id).isLeaf with
      | true => rfl
      | false =>
        rw [hl, Bool.false_or] at hcut
        rw [hcut]
        rfl
    · simp only [Bool.or_eq_true, not_or] at hcut
      rw [if_neg hcut.1, if_neg hcut.2, List.filterMap_append, List.filterMap_flatMap,
        List.filter_flatMap]
      have hnone : [(⟨id, false⟩ : d.Visit)].filterMap Visit.entered? = [] := rfl
      rw [hnone, List.append_nil]
      apply List.flatMap_congr
      intro c hc
      apply ih c hc
      rw [isReached_of_mem_children hc, h]
      simp [hcut]

variable {σ ε : Type}

/-- The state after one visit, its answer left aside. -/
def runVisit (visit : d.Visitor σ ε) (s : σ) (v : d.Visit) : Except ε σ :=
  (visit v.id v.entering s).map Prod.fst

/-- A visitor that keeps to the kinds `skip`: on entering them it either asks to skip the children
or makes nothing of them, and on entering any other kind it goes on. -/
def KeepsTo (visit : d.Visitor σ ε) (skip : Kind → Bool) : Prop :=
  ∀ id s s' status, visit id true s = .ok (s', status) →
    if skip (d.kind id) then
      status = .skipChildren ∨ ∀ c ∈ d.children id, d.walkFrom visit c s' = .ok s'
    else status = .goToNext

theorem foldlM_of_forall_ok {α : Type} {f : σ → α → Except ε σ} {s : σ} {l : List α}
    (h : ∀ a ∈ l, f s a = .ok s) : l.foldlM f s = .ok s := by
  induction l with
  | nil => rfl
  | cons a l ih =>
    rw [List.foldlM_cons, h a List.mem_cons_self]
    exact ih fun b hb => h b (List.mem_cons_of_mem _ hb)

theorem foldlM_flatMap {α β : Type} {f : σ → β → Except ε σ} {whole : σ → α → Except ε σ}
    {parts : α → List β} {l : List α}
    (h : ∀ a ∈ l, ∀ s, whole s a = (parts a).foldlM f s) (s : σ) :
    l.foldlM whole s = (l.flatMap parts).foldlM f s := by
  induction l generalizing s with
  | nil => rfl
  | cons a l ih =>
    rw [List.foldlM_cons, List.flatMap_cons, List.foldlM_append, h a List.mem_cons_self]
    apply congrArg
    funext s'
    exact ih (fun b hb => h b (List.mem_cons_of_mem _ hb)) s'

theorem walkFrom_of_error {visit : d.Visitor σ ε} {id : d.Id} {s : σ} {e : ε}
    (h : visit id true s = .error e) : d.walkFrom visit id s = .error e := by
  rw [walkFrom_eq, h]
  rfl

theorem walkFrom_of_ok {visit : d.Visitor σ ε} {id : d.Id} {s s' : σ} {status : Status}
    (h : visit id true s = .ok (s', status)) :
    d.walkFrom visit id s =
      if (d.kind id).isLeaf then .ok s'
      else
        (if status = .skipChildren then .ok s'
          else (d.children id).foldlM (fun s c => d.walkFrom visit c s) s') >>=
          fun s => runVisit visit s ⟨id, false⟩ := by
  have hexit : (fun s => runVisit visit s ⟨id, false⟩) =
      fun s => visit id false s >>= fun r => pure r.1 := by
    funext s
    rw [runVisit]
    cases visit id false s <;> rfl
  rw [walkFrom_eq, h, hexit]
  cases status <;> rfl

/-- A walk is the run of its visits. -/
theorem walkFrom_eq_foldlM {visit : d.Visitor σ ε} {skip : Kind → Bool}
    (hv : KeepsTo visit skip) (id : d.Id) (s : σ) :
    d.walkFrom visit id s = (d.visitsFrom skip id).foldlM (runVisit visit) s := by
  induction id using childInduction generalizing s with
  | step id ih =>
    rw [visitsFrom_eq, List.foldlM_cons]
    cases he : visit id true s with
    | error e =>
      rw [walkFrom_of_error he, runVisit, he]
      rfl
    | ok r =>
      obtain ⟨s', status⟩ := r
      have hs := hv id s s' status he
      have henter : runVisit visit s ⟨id, true⟩ = .ok s' := by rw [runVisit, he]; rfl
      rw [walkFrom_of_ok he, henter]
      change _ = List.foldlM _ s' _
      by_cases hl : (d.kind id).isLeaf = true
      · rw [if_pos hl, if_pos hl]
        rfl
      rw [if_neg hl, if_neg hl, List.foldlM_append]
      apply congrArg₂ Bind.bind
      -- Where the visits leave the children out, the visitor skips them or makes nothing of them.
      · by_cases hk : skip (d.kind id) = true
        · rw [if_pos hk] at hs ⊢
          cases status with
          | skipChildren => rfl
          | goToNext =>
            obtain hs | hs := hs
            · cases hs
            · exact foldlM_of_forall_ok hs
        · rw [if_neg hk] at hs ⊢
          subst hs
          exact foldlM_flatMap ih s'
      · funext s
        rw [List.foldlM_cons]
        exact (bind_pure _).symm

end Document
end ChatMarkup
