import ChatMarkup.Proofs.Document.Siblings
import Mathlib.Data.List.Flatten
import Mathlib.Data.List.Nodup

namespace ChatMarkup
namespace Document

variable {d : Document} {skip : Kind → Bool} {id a b p x : d.Id} {v w : d.Visit}
  {l m : List d.Visit}

/-- One visit is made before another one. -/
def Before (visits : List d.Visit) (v w : d.Visit) : Prop := [v, w].Sublist visits

/-- The visits of a walk that skips below the kinds `skip`, each made once: the nodes below no leaf
and below no skipped node are entered, and those among them that are no leaves are left again, after
all visits below them. Siblings are visited in their order, each with all that stands below it. -/
structure IsTraversal (d : Document) (skip : Kind → Bool) (visits : List d.Visit) : Prop where
  nodup : visits.Nodup
  entered : ∀ id, ⟨id, true⟩ ∈ visits ↔
    ∀ a ∈ d.ancestors id, (d.kind a).isLeaf = false ∧ skip (d.kind a) = false
  left : ∀ id, ⟨id, false⟩ ∈ visits ↔ ⟨id, true⟩ ∈ visits ∧ (d.kind id).isLeaf = false
  entered_before_left : ∀ id, ⟨id, false⟩ ∈ visits → Before visits ⟨id, true⟩ ⟨id, false⟩
  around : ∀ v ∈ visits, ∀ a ∈ d.ancestors v.id,
    Before visits ⟨a, true⟩ v ∧ Before visits v ⟨a, false⟩
  siblings : ∀ p a b, [a, b].Sublist (d.children p) → ∀ v ∈ visits, ∀ w ∈ visits,
    (v.id = a ∨ a ∈ d.ancestors v.id) → (w.id = b ∨ b ∈ d.ancestors w.id) → Before visits v w

theorem isReached_iff : d.isReached skip id = true ↔
    ∀ a ∈ d.ancestors id, (d.kind a).isLeaf = false ∧ skip (d.kind a) = false := by
  simp [isReached]

theorem isReached_of_ancestor (hx : d.isReached skip x = true) (ha : a ∈ d.ancestors x) :
    d.isReached skip a = true := by
  rw [isReached_iff] at hx ⊢
  exact fun c hc => hx c (mem_ancestors_trans hc ha)

theorem isReached_child (hp : d.isReached skip p = true) (hl : (d.kind p).isLeaf = false)
    (hk : skip (d.kind p) = false) (ha : a ∈ d.children p) : d.isReached skip a = true := by
  rw [isReached_of_mem_children ha, hp, hl, hk]
  rfl

theorem visitsFrom_of_open (hl : (d.kind id).isLeaf = false) (hk : skip (d.kind id) = false) :
    d.visitsFrom skip id =
      ⟨id, true⟩ :: ((d.children id).flatMap (d.visitsFrom skip) ++ [⟨id, false⟩]) := by
  rw [visitsFrom_eq, hl, hk]
  rfl

theorem mem_preorderFrom_of_mem_visitsFrom (h : v ∈ d.visitsFrom skip id) :
    v.id ∈ d.preorderFrom id := by
  induction id using childInduction with
  | step id ih =>
    rw [visitsFrom_eq, List.mem_cons] at h
    obtain rfl | h := h
    · exact mem_preorderFrom_self id
    split_ifs at h
    · cases h
    · rw [List.nil_append, List.mem_singleton] at h
      rw [h]
      exact mem_preorderFrom_self id
    · rw [List.mem_append, List.mem_flatMap, List.mem_singleton] at h
      obtain ⟨c, hc, hv⟩ | rfl := h
      · exact mem_preorderFrom_of_child hc (ih c hc hv)
      · exact mem_preorderFrom_self id

theorem mem_visitsFrom_iff (hid : d.isReached skip id = true) :
    v ∈ d.visitsFrom skip id ↔ v.id ∈ d.preorderFrom id ∧ d.isReached skip v.id = true ∧
      (v.entering = true ∨ (d.kind v.id).isLeaf = false) := by
  induction id using childInduction with
  | step id ih =>
    constructor
    · intro h
      refine ⟨mem_preorderFrom_of_mem_visitsFrom h, ?_⟩
      rw [visitsFrom_eq, List.mem_cons] at h
      obtain rfl | h := h
      · exact ⟨hid, Or.inl rfl⟩
      split_ifs at h with hl hk
      · cases h
      · rw [List.nil_append, List.mem_singleton] at h
        subst h
        exact ⟨hid, Or.inr (eq_false_of_ne_true hl)⟩
      · have hl := eq_false_of_ne_true hl
        have hk := eq_false_of_ne_true hk
        rw [List.mem_append, List.mem_flatMap, List.mem_singleton] at h
        obtain ⟨c, hc, hv⟩ | rfl := h
        · exact ((ih c hc (isReached_child hid hl hk hc)).mp hv).2
        · exact ⟨hid, Or.inr hl⟩
    · rintro ⟨hbelow, hreached, hside⟩
      rw [preorderFrom_eq, List.mem_cons, List.mem_flatMap] at hbelow
      obtain hself | ⟨c, hc, hvc⟩ := hbelow
      · obtain ⟨x, entering⟩ := v
        obtain rfl : x = id := hself
        rw [visitsFrom_eq]
        cases entering with
        | true => exact List.mem_cons_self
        | false =>
          have hl : (d.kind x).isLeaf = false := hside.resolve_left Bool.false_ne_true
          rw [hl]
          exact List.mem_cons_of_mem _ (List.mem_append_right _ List.mem_cons_self)
      · have habove := mem_ancestors_of_child hc hvc
        obtain ⟨hl, hk⟩ := isReached_iff.mp hreached id habove
        rw [visitsFrom_of_open hl hk]
        have hv := (ih c hc (isReached_child hid hl hk hc)).mpr ⟨hvc, hreached, hside⟩
        exact List.mem_cons_of_mem _
          (List.mem_append_left _ (List.mem_flatMap.mpr ⟨c, hc, hv⟩))

theorem mem_visits_iff : v ∈ d.visits skip ↔
    d.isReached skip v.id = true ∧ (v.entering = true ∨ (d.kind v.id).isLeaf = false) := by
  rw [visits, mem_visitsFrom_iff (isReached_root skip)]
  exact and_iff_right (d.mem_preorder v.id)

theorem nodup_visitsFrom (skip : Kind → Bool) (id : d.Id) : (d.visitsFrom skip id).Nodup := by
  induction id using childInduction with
  | step id ih =>
    have hbelow : ∀ entering, ⟨id, entering⟩ ∉ (d.children id).flatMap (d.visitsFrom skip) := by
      intro entering h
      obtain ⟨c, hc, hv⟩ := List.mem_flatMap.mp h
      exact not_mem_preorderFrom_of_mem_children hc (mem_preorderFrom_of_mem_visitsFrom hv)
    have hchildren : ((d.children id).flatMap (d.visitsFrom skip)).Nodup := by
      refine List.nodup_flatMap.mpr ⟨ih, (d.nodup_children id).imp_of_mem ?_⟩
      intro a b ha hb hne v hva hvb
      exact hne (eq_of_mem_preorderFrom ha hb (mem_preorderFrom_of_mem_visitsFrom hva)
        (mem_preorderFrom_of_mem_visitsFrom hvb))
    rw [visitsFrom_eq]
    split_ifs
    · exact List.nodup_singleton _
    · simp
    · have hexit := hchildren.append (List.nodup_singleton _)
        (List.disjoint_singleton.mpr (hbelow false))
      refine List.nodup_cons.mpr ⟨fun h => ?_, hexit⟩
      rw [List.mem_append] at h
      exact h.elim (hbelow true) (by simp)

/-- What a walk visits from a node down, it visits in one go. -/
theorem infix_visits (hid : d.isReached skip id = true) :
    d.visitsFrom skip id <:+: d.visits skip := by
  induction id using parentInduction with
  | root => exact List.infix_refl _
  | step p c hc ih =>
    have habove : p ∈ d.ancestors c := by
      rw [ancestors_of_mem_children hc]
      exact List.mem_cons_self
    obtain ⟨hl, hk⟩ := isReached_iff.mp hid p habove
    have hchild : d.visitsFrom skip c <:+: (d.children p).flatMap (d.visitsFrom skip) := by
      rw [List.flatMap_def]
      exact List.infix_of_mem_flatten (List.mem_map_of_mem hc)
    have hinner : d.visitsFrom skip c <:+: d.visitsFrom skip p := by
      rw [visitsFrom_of_open hl hk]
      exact (hchild.trans (List.prefix_append _ _).isInfix).trans (List.suffix_cons _ _).isInfix
    exact hinner.trans (ih (isReached_of_ancestor hid habove))

theorem before_of_ancestor (hv : v ∈ d.visits skip) (ha : a ∈ d.ancestors v.id) :
    Before (d.visits skip) ⟨a, true⟩ v ∧ Before (d.visits skip) v ⟨a, false⟩ := by
  obtain ⟨hreached, hside⟩ := mem_visits_iff.mp hv
  obtain ⟨hl, hk⟩ := isReached_iff.mp hreached a ha
  have hareached := isReached_of_ancestor hreached ha
  have hbelow := mem_preorderFrom_iff.mpr (Or.inr ha)
  have hsub := (infix_visits hareached).sublist
  have hmem := (mem_visitsFrom_iff hareached).mpr ⟨hbelow, hreached, hside⟩
  have hne : v.id ≠ a := fun h => absurd (val_lt_of_mem_ancestors ha) (by rw [h]; omega)
  rw [visitsFrom_of_open hl hk] at hmem hsub
  have hinner : v ∈ (d.children a).flatMap (d.visitsFrom skip) := by
    rw [List.mem_cons, List.mem_append, List.mem_singleton] at hmem
    obtain rfl | hinner | rfl := hmem
    · exact absurd rfl hne
    · exact hinner
    · exact absurd rfl hne
  have hone := List.singleton_sublist.mpr hinner
  have henter := (hone.trans (List.sublist_append_left _ [⟨a, false⟩])).cons_cons ⟨a, true⟩
  have hleave := (hone.append (List.Sublist.refl [⟨a, false⟩])).cons ⟨a, true⟩
  exact ⟨henter.trans hsub, hleave.trans hsub⟩

theorem before_of_siblings (hab : [a, b].Sublist (d.children p)) (hv : v ∈ d.visits skip)
    (hw : w ∈ d.visits skip) (hva : v.id ∈ d.preorderFrom a) (hwb : w.id ∈ d.preorderFrom b) :
    Before (d.visits skip) v w := by
  obtain ⟨hvreached, hvside⟩ := mem_visits_iff.mp hv
  obtain ⟨hwreached, hwside⟩ := mem_visits_iff.mp hw
  have ha : a ∈ d.children p := hab.subset List.mem_cons_self
  have hb : b ∈ d.children p := hab.subset (List.mem_cons_of_mem _ List.mem_cons_self)
  have habove := mem_ancestors_of_child ha hva
  obtain ⟨hl, hk⟩ := isReached_iff.mp hvreached p habove
  have hp := isReached_of_ancestor hvreached habove
  have hvmem : v ∈ d.visitsFrom skip a :=
    (mem_visitsFrom_iff (isReached_child hp hl hk ha)).mpr ⟨hva, hvreached, hvside⟩
  have hwmem : w ∈ d.visitsFrom skip b :=
    (mem_visitsFrom_iff (isReached_child hp hl hk hb)).mpr ⟨hwb, hwreached, hwside⟩
  have hpair : [v, w].Sublist ([a, b].flatMap (d.visitsFrom skip)) := by
    simpa using (List.singleton_sublist.mpr hvmem).append (List.singleton_sublist.mpr hwmem)
  have hchildren : [v, w].Sublist ((d.children p).flatMap (d.visitsFrom skip)) :=
    hpair.trans (hab.flatMap _)
  have hfrom : [v, w].Sublist (d.visitsFrom skip p) := by
    rw [visitsFrom_of_open hl hk]
    exact (hchildren.trans (List.sublist_append_left _ _)).cons _
  exact hfrom.trans (infix_visits hp).sublist

theorem before_of_left (h : ⟨id, false⟩ ∈ d.visits skip) :
    Before (d.visits skip) ⟨id, true⟩ ⟨id, false⟩ := by
  obtain ⟨hreached, hside⟩ := mem_visits_iff.mp h
  have hl : (d.kind id).isLeaf = false := hside.resolve_left Bool.false_ne_true
  have hfrom : [⟨id, true⟩, ⟨id, false⟩].Sublist (d.visitsFrom skip id) := by
    rw [visitsFrom_eq, hl]
    exact (List.sublist_append_right _ _).cons_cons _
  exact hfrom.trans (infix_visits hreached).sublist

theorem isTraversal_visits (d : Document) (skip : Kind → Bool) :
    d.IsTraversal skip (d.visits skip) where
  nodup := nodup_visitsFrom skip d.root
  entered id := by
    rw [mem_visits_iff, isReached_iff]
    exact and_iff_left (Or.inl rfl)
  left id := by
    rw [mem_visits_iff, mem_visits_iff]
    simp
  entered_before_left _ := before_of_left
  around _ hv _ ha := before_of_ancestor hv ha
  siblings _ _ _ hab _ hv _ hw hva hwb :=
    before_of_siblings hab hv hw (mem_preorderFrom_iff.mpr hva) (mem_preorderFrom_iff.mpr hwb)

theorem pair_sublist_or {α : Type} {l : List α} {a b : α} (ha : a ∈ l) (hb : b ∈ l) (hne : a ≠ b) :
    [a, b].Sublist l ∨ [b, a].Sublist l := by
  obtain ⟨s, t, rfl⟩ := List.append_of_mem ha
  obtain hs | ht := List.mem_append.mp hb
  · have hfirst := List.singleton_sublist.mpr hs
    exact Or.inr (hfirst.append (List.singleton_sublist.mpr List.mem_cons_self))
  · have ht : b ∈ t := (List.mem_cons.mp ht).resolve_left hne.symm
    have hpair := (List.singleton_sublist.mpr ht).cons_cons a
    exact Or.inl (hpair.trans (List.sublist_append_right _ _))

theorem not_before_of_before (hnodup : l.Nodup) (h : Before l v w) : ¬Before l w v := by
  intro h'
  obtain ⟨r, s, hrs, hv, hw⟩ := List.cons_sublist_iff.mp h
  obtain ⟨r', s', hrs', hw', hv'⟩ := List.cons_sublist_iff.mp h'
  rw [List.singleton_sublist] at hw hv'
  have hapart := (List.nodup_append.mp (hrs ▸ hnodup)).2.2
  rw [hrs, List.append_eq_append_iff] at hrs'
  obtain ⟨t, -, rfl⟩ | ⟨t, rfl, -⟩ := hrs'
  · exact hapart v hv v (List.mem_append_right _ hv') rfl
  · exact hapart w (List.mem_append_left _ hw') w hw rfl

theorem IsTraversal.before_or (skip : Kind → Bool) (hne : v ≠ w) :
    (∀ l, d.IsTraversal skip l → v ∈ l → w ∈ l → Before l v w) ∨
      ∀ l, d.IsTraversal skip l → v ∈ l → w ∈ l → Before l w v := by
  obtain ⟨a, entering⟩ := v
  obtain ⟨b, entering'⟩ := w
  obtain hab | hab | hab | ⟨p, x, hx, y, hy, hxy, hax, hby⟩ := kinship a b
  · subst hab
    cases entering with
    | true =>
      cases entering' with
      | true => exact absurd rfl hne
      | false => exact Or.inl fun l h _ hw => h.entered_before_left a hw
    | false =>
      cases entering' with
      | true => exact Or.inr fun l h hv _ => h.entered_before_left a hv
      | false => exact absurd rfl hne
  · cases entering with
    | true => exact Or.inl fun l h _ hw => (h.around _ hw a hab).1
    | false => exact Or.inr fun l h _ hw => (h.around _ hw a hab).2
  · cases entering' with
    | true => exact Or.inr fun l h hv _ => (h.around _ hv b hab).1
    | false => exact Or.inl fun l h hv _ => (h.around _ hv b hab).2
  · rw [mem_preorderFrom_iff] at hax hby
    obtain hpair | hpair := pair_sublist_or hx hy hxy
    · exact Or.inl fun l h hv hw => h.siblings p x y hpair _ hv _ hw hax hby
    · exact Or.inr fun l h hv hw => h.siblings p y x hpair _ hw _ hv hby hax

theorem IsTraversal.mem_iff (hl : d.IsTraversal skip l) (hm : d.IsTraversal skip m) :
    v ∈ l ↔ v ∈ m := by
  obtain ⟨id, entering⟩ := v
  cases entering with
  | true => rw [hl.entered, hm.entered]
  | false => rw [hl.left, hm.left, hl.entered, hm.entered]

theorem IsTraversal.before (hl : d.IsTraversal skip l) (hm : d.IsTraversal skip m)
    (h : Before l v w) : Before m v w := by
  have hv : v ∈ l := h.subset List.mem_cons_self
  have hw : w ∈ l := h.subset (List.mem_cons_of_mem _ List.mem_cons_self)
  have hne : v ≠ w := by
    rintro rfl
    exact not_before_of_before hl.nodup h h
  obtain hbefore | hbefore := IsTraversal.before_or skip hne
  · exact hbefore m hm ((hl.mem_iff hm).mp hv) ((hl.mem_iff hm).mp hw)
  · exact absurd (hbefore l hl hv hw) (not_before_of_before hl.nodup h)

/-- There is one traversal only. -/
theorem IsTraversal.eq (hl : d.IsTraversal skip l) (hm : d.IsTraversal skip m) : l = m := by
  have hpairs : l.Pairwise (Before m) :=
    List.pairwise_iff_forall_sublist.mpr fun h => hl.before hm h
  have hself : m.Pairwise (Before m) := List.pairwise_iff_forall_sublist.mpr id
  have hperm := (List.perm_ext_iff_of_nodup hl.nodup hm.nodup).mpr fun _ => hl.mem_iff hm
  refine List.Perm.eq_of_pairwise (fun v w _ _ h h' => ?_) hpairs hself hperm
  exact absurd h' (not_before_of_before hm.nodup h)

end Document
end ChatMarkup
