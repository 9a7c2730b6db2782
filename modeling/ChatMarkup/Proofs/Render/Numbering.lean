import ChatMarkup.Proofs.Render.Rendering

namespace ChatMarkup
namespace ListNumbering

variable {l m n : ListNumbering} {i j : Nat}

/-- The numbering `m` comes from the numbering `l` by so many items at its depth; only the counters
of deeper lists may differ beyond that. -/
structure Advanced (l : ListNumbering) (items : Nat) (m : ListNumbering) : Prop where
  depth : m.depth = l.depth
  outer : ∀ k < l.depth, m.ordinal k = l.ordinal k
  here : m.ordinal l.depth = l.ordinal l.depth + items

theorem Advanced.refl (l : ListNumbering) : Advanced l 0 l := ⟨rfl, fun _ _ => rfl, rfl⟩

theorem Advanced.trans (h : Advanced l i m) (k : Advanced m j n) : Advanced l (i + j) n where
  depth := k.depth.trans h.depth
  outer := by
    intro x hx
    rw [k.outer x (h.depth ▸ hx), h.outer x hx]
  here := by
    have hm := k.here
    rw [h.depth] at hm
    rw [hm, h.here, Nat.add_assoc]

theorem ordinal_enter_of_lt (l : ListNumbering) (ordered : Bool) {k : Nat} (h : k ≤ l.depth) :
    (l.enter ordered).ordinal k = l.ordinal k := by
  cases ordered with
  | false => rfl
  | true =>
    change (if k = l.depth + 1 then 1 else l.ordinal k) = l.ordinal k
    rw [if_neg (by omega)]

theorem ordinal_enter_true (l : ListNumbering) :
    (l.enter true).ordinal (l.enter true).depth = 1 := by
  change (if l.depth + 1 = l.depth + 1 then 1 else l.ordinal (l.depth + 1)) = 1
  rw [if_pos rfl]

theorem Advanced.exit {ordered : Bool} (h : Advanced (l.enter ordered) i m) :
    Advanced l 0 m.exit := by
  have hdepth : (l.enter ordered).depth = l.depth + 1 := enter_depth l ordered
  have houter : ∀ k ≤ l.depth, m.ordinal k = l.ordinal k := by
    intro k hk
    rw [h.outer k (by omega), ordinal_enter_of_lt l ordered hk]
  refine ⟨?_, fun k hk => houter k (Nat.le_of_lt hk), houter l.depth (Nat.le_refl _)⟩
  have hm := h.depth
  rw [exit_depth]
  omega

theorem depth_after_true (l : ListNumbering) (node : Node) :
    (l.after node true).depth = l.depth + if node.kind = .list then 1 else 0 := by
  cases node with
  | listItem ordered bullet => cases ordered <;> rfl
  | list ordered => exact enter_depth l ordered
  | _ => rfl

theorem depth_after_false (l : ListNumbering) (node : Node) :
    (l.after node false).depth = l.depth - if node.kind = .list then 1 else 0 := by
  cases node with
  | listItem ordered bullet => cases ordered <;> rfl
  | _ => rfl

theorem advanced_next (l : ListNumbering) : Advanced l 1 l.next.2 := by
  refine ⟨rfl, ?_, ?_⟩
  · intro k hk
    change (if k = l.depth then _ else l.ordinal k) = l.ordinal k
    rw [if_neg (by omega)]
  · change (if l.depth = l.depth then l.ordinal l.depth + 1 else _) = _
    rw [if_pos rfl]

end ListNumbering

namespace Document

open ListNumbering

variable {d : Document} {skip : Kind → Bool} {id : d.Id} {l : ListNumbering}

def listDepth (d : Document) (id : d.Id) : Nat := (d.ancestors id).countP (d.kind · == .list)

def isOrderedItem (d : Document) (id : d.Id) : Bool :=
  match d.node id with
  | .listItem ordered _ => ordered
  | _ => false

/-- The place of an item among the numbered items of its parent, counted from 1. -/
def ordinal (d : Document) (id : d.Id) : Nat :=
  1 + (d.siblingsBefore id).countP d.isOrderedItem

/-- Whether numbered items stand only directly in numbered lists. -/
def ItemsInLists (d : Document) : Prop :=
  ∀ id, d.isOrderedItem id = true → (d.parent? id).map d.node = some (.list true)

instance (d : Document) : Decidable d.ItemsInLists :=
  inferInstanceAs (Decidable (∀ id, d.isOrderedItem id = true →
    (d.parent? id).map d.node = some (.list true)))

/-- Whether the numbered items below a node stand only directly in numbered lists. -/
def ItemsInListsBelow (d : Document) (id : d.Id) : Prop :=
  ∀ x ∈ d.preorderFrom id, ∀ c ∈ d.children x, d.isOrderedItem c = true → d.node x = .list true

theorem ItemsInLists.below (h : d.ItemsInLists) (id : d.Id) : d.ItemsInListsBelow id := by
  intro x _ c hc hitem
  have hparent := h c hitem
  rw [(d.mem_children_iff).mp hc] at hparent
  exact Option.some.inj hparent

theorem ItemsInListsBelow.child {c : d.Id} (h : d.ItemsInListsBelow id) (hc : c ∈ d.children id) :
    d.ItemsInListsBelow c := fun x hx => h x (mem_preorderFrom_of_child hc hx)

def numberingAfter (d : Document) (l : ListNumbering) (visits : List d.Visit) : ListNumbering :=
  visits.foldl (fun l v => l.after (d.node v.id) v.entering) l

theorem numberingAfter_append (l : ListNumbering) (a b : List d.Visit) :
    d.numberingAfter l (a ++ b) = d.numberingAfter (d.numberingAfter l a) b :=
  List.foldl_append

theorem countP_isOrderedItem_cons (c : d.Id) (nodes : List d.Id) :
    (c :: nodes).countP d.isOrderedItem =
      [c].countP d.isOrderedItem + nodes.countP d.isOrderedItem := by
  rw [← List.countP_append]
  rfl

theorem advanced_flatMap {nodes : List d.Id}
    (each : ∀ c ∈ nodes, ∀ l, Advanced l ([c].countP d.isOrderedItem)
      (d.numberingAfter l (d.visitsFrom skip c))) (l : ListNumbering) :
    Advanced l (nodes.countP d.isOrderedItem)
      (d.numberingAfter l (nodes.flatMap (d.visitsFrom skip))) := by
  induction nodes generalizing l with
  | nil => exact Advanced.refl l
  | cons c nodes ih =>
    have hfirst := each c List.mem_cons_self l
    have hrest := ih (fun e he => each e (List.mem_cons_of_mem _ he))
      (d.numberingAfter l (d.visitsFrom skip c))
    rw [List.flatMap_cons, numberingAfter_append]
    rw [countP_isOrderedItem_cons]
    exact hfirst.trans hrest

theorem advanced_after (hlist : ∀ ordered, d.node id ≠ .list ordered) (l : ListNumbering) :
    Advanced l ([id].countP d.isOrderedItem) (l.after (d.node id) true) ∧
      l.after (d.node id) false = l := by
  have hcount : [id].countP d.isOrderedItem = if d.isOrderedItem id = true then 1 else 0 := by
    rw [List.countP_singleton]
  rw [hcount, isOrderedItem]
  cases hn : d.node id with
  | list ordered => exact absurd hn (hlist ordered)
  | listItem ordered bullet =>
    cases ordered with
    | true => exact ⟨advanced_next l, rfl⟩
    | false => exact ⟨Advanced.refl l, rfl⟩
  | _ => exact ⟨Advanced.refl l, rfl⟩

/-- A walk within a node touches the counter of its depth only for the node itself. -/
theorem advanced_visitsFrom (skip : Kind → Bool) (hbelow : d.ItemsInListsBelow id)
    (l : ListNumbering) :
    Advanced l ([id].countP d.isOrderedItem) (d.numberingAfter l (d.visitsFrom skip id)) := by
  induction id using childInduction generalizing l with
  | step id ih =>
    -- Numbered items below a list count in the list, where `exit` hides them; below any other node
    -- there are none.
    have hinner : ∀ l, ∃ items, Advanced l items (d.numberingAfter l
          (if skip (d.kind id) then [] else (d.children id).flatMap (d.visitsFrom skip))) ∧
        (d.node id ≠ .list true → items = 0) := by
      intro l
      split_ifs
      · exact ⟨0, Advanced.refl l, fun _ => rfl⟩
      · refine ⟨_, advanced_flatMap (fun c hc => ih c hc (hbelow.child hc)) l, ?_⟩
        intro hne
        rw [List.countP_eq_zero]
        intro c hc hitem
        exact hne (hbelow id (mem_preorderFrom_self id) c hc hitem)
    rw [visitsFrom_eq]
    by_cases hlist : ∃ ordered, d.node id = .list ordered
    · obtain ⟨ordered, hn⟩ := hlist
      have hleaf : (d.kind id).isLeaf = false := by rw [kind, hn]; rfl
      have hitem : [id].countP d.isOrderedItem = 0 := by simp [isOrderedItem, hn]
      obtain ⟨items, hadvanced, -⟩ := hinner (l.enter ordered)
      rw [hitem, hleaf, if_neg Bool.false_ne_true]
      change Advanced l 0 (d.numberingAfter (l.after (d.node id) true) (_ ++ [⟨id, false⟩]))
      rw [numberingAfter_append, hn]
      change Advanced l 0 (ListNumbering.after _ (d.node id) false)
      rw [hn]
      exact hadvanced.exit
    · rw [not_exists] at hlist
      obtain ⟨henter, -⟩ := advanced_after hlist l
      change Advanced l _ (d.numberingAfter (l.after (d.node id) true) _)
      cases hleaf : (d.kind id).isLeaf with
      | true => exact henter
      | false =>
        obtain ⟨items, hadvanced, hzero⟩ := hinner (l.after (d.node id) true)
        rw [hzero (hlist true)] at hadvanced
        rw [if_neg Bool.false_ne_true, numberingAfter_append]
        change Advanced l _ (ListNumbering.after _ (d.node id) false)
        rw [(advanced_after hlist _).2]
        exact henter.trans hadvanced

/-- Visits at which the numbering fits the document: on entering a node the depth is that of the
node, and the next number of an item is its place. -/
def Numbered (d : Document) (l : ListNumbering) : List d.Visit → Prop
  | [] => True
  | v :: visits =>
    (v.entering = true → l.depth = d.listDepth v.id ∧
      (d.isOrderedItem v.id = true → l.ordinal l.depth = d.ordinal v.id)) ∧
      Numbered d (l.after (d.node v.id) v.entering) visits

theorem numbered_append {l : ListNumbering} {a b : List d.Visit} :
    d.Numbered l (a ++ b) ↔ d.Numbered l a ∧ d.Numbered (d.numberingAfter l a) b := by
  induction a generalizing l with
  | nil => simp [Numbered, numberingAfter]
  | cons v a ih =>
    rw [List.cons_append, Numbered, ih, Numbered, and_assoc]
    rfl

theorem listDepth_of_mem_children {c : d.Id} (hc : c ∈ d.children id) :
    d.listDepth c = d.listDepth id + if d.kind id = .list then 1 else 0 := by
  rw [listDepth, ancestors_of_mem_children hc, List.countP_cons, listDepth]
  simp

theorem numbered_flatMap {nodes : List d.Id} (hbelow : ∀ c ∈ nodes, d.ItemsInListsBelow c)
    (each : ∀ c ∈ nodes, ∀ l, l.depth = d.listDepth c →
      (d.isOrderedItem c = true → l.ordinal l.depth = d.ordinal c) →
      d.Numbered l (d.visitsFrom skip c)) (l : ListNumbering)
    (hdepth : ∀ c ∈ nodes, l.depth = d.listDepth c)
    (hplace : ∀ before c after, nodes = before ++ c :: after → d.isOrderedItem c = true →
      l.ordinal l.depth + before.countP d.isOrderedItem = d.ordinal c) :
    d.Numbered l (nodes.flatMap (d.visitsFrom skip)) := by
  induction nodes generalizing l with
  | nil => trivial
  | cons c nodes ih =>
    have hadvanced := advanced_visitsFrom skip (hbelow c List.mem_cons_self) l
    rw [List.flatMap_cons, numbered_append]
    refine ⟨each c List.mem_cons_self l (hdepth c List.mem_cons_self) ?_, ?_⟩
    · intro hitem
      exact hplace [] c nodes rfl hitem
    · refine ih (fun e he => hbelow e (List.mem_cons_of_mem _ he))
        (fun e he => each e (List.mem_cons_of_mem _ he)) _ ?_ ?_
      · intro e he
        rw [hadvanced.depth]
        exact hdepth e (List.mem_cons_of_mem _ he)
      · intro before e after hsplit hitem
        rw [hadvanced.depth, hadvanced.here, Nat.add_assoc, ← countP_isOrderedItem_cons]
        exact hplace (c :: before) e after (by rw [hsplit, List.cons_append]) hitem

theorem numbered_visitsFrom (hbelow : d.ItemsInListsBelow id) (l : ListNumbering)
    (hdepth : l.depth = d.listDepth id)
    (hplace : d.isOrderedItem id = true → l.ordinal l.depth = d.ordinal id) :
    d.Numbered l (d.visitsFrom skip id) := by
  induction id using childInduction generalizing l with
  | step id ih =>
    rw [visitsFrom_eq]
    refine ⟨fun _ => ⟨hdepth, hplace⟩, ?_⟩
    have hexit : ∀ l, d.Numbered l [⟨id, false⟩] := by
      intro l
      exact ⟨fun hentering => absurd hentering Bool.false_ne_true, trivial⟩
    split_ifs
    · trivial
    · exact hexit _
    · rw [numbered_append]
      refine ⟨?_, hexit _⟩
      have hafter : (l.after (d.node id) true).depth =
          d.listDepth id + if d.kind id = .list then 1 else 0 := by
        rw [← hdepth]
        exact depth_after_true l (d.node id)
      apply numbered_flatMap (fun c hc => hbelow.child hc) fun c hc => ih c hc (hbelow.child hc)
      · intro c hc
        rw [hafter, listDepth_of_mem_children hc]
      · intro before c after hsplit hitem
        have hc : c ∈ d.children id := by
          rw [hsplit]
          exact List.mem_append_right _ List.mem_cons_self
        rw [hbelow id (mem_preorderFrom_self id) c hc hitem, ordinal, siblingsBefore_eq hsplit]
        exact congrArg (· + _) (ordinal_enter_true l)

theorem ItemsInLists.numbered (h : d.ItemsInLists) : d.Numbered {} (d.visits skip) := by
  apply numbered_visitsFrom (h.below _)
  · rw [listDepth, ancestors_root]
    rfl
  · intro hitem
    rw [isOrderedItem, node_root] at hitem
    cases hitem

end Document

namespace Pass

variable {d : Document} {o : Options} {p q : Pass d} {id : d.Id}

theorem written_listItem {ordered : Bool} {bullet : Char}
    (hn : d.node id = .listItem ordered bullet) (hdepth : p.numbering.depth = d.listDepth id)
    (hplace : d.isOrderedItem id = true →
      p.numbering.ordinal p.numbering.depth = d.ordinal id)
    (hword : o.indentSize * (d.listDepth id - 1) < wordLimit) :
    p.written o id true = List.replicate (o.indentSize * (d.listDepth id - 1)) ' ' ++
      if ordered then Text.ofNat (d.ordinal id) ++ ['\\', '.', ' '] else ['\\', bullet, ' '] := by
  have hindent : p.numbering.indent o.indentSize =
      List.replicate (o.indentSize * (d.listDepth id - 1)) ' ' := by
    rw [ListNumbering.indent, hdepth, Nat.mul_comm, Nat.mod_eq_of_lt hword]
  have hpiece : p.written o id true = p.itemPiece o ordered bullet := by
    rw [written, piece, hn]
    rfl
  rw [hpiece, itemPiece, hindent]
  cases ordered with
  | false => rfl
  | true =>
    have hitem : d.isOrderedItem id = true := by rw [Document.isOrderedItem, hn]
    rw [ListNumbering.next, hplace hitem]

theorem foldlM_walkFrom {nodes : List d.Id}
    (each : ∀ c ∈ nodes, ∀ p q : Pass d, d.walkFrom (visit o) c p = .ok q →
      q.numbering.depth = p.numbering.depth ∧
        ∀ t ∈ q.rendered, t ∈ p.rendered ∨ t ∈ d.preorderFrom c)
    (h : nodes.foldlM (fun p c => d.walkFrom (visit o) c p) p = .ok q) :
    q.numbering.depth = p.numbering.depth ∧
      ∀ t ∈ q.rendered, t ∈ p.rendered ∨ ∃ c ∈ nodes, t ∈ d.preorderFrom c := by
  induction nodes generalizing p with
  | nil =>
    cases h
    exact ⟨rfl, fun t ht => Or.inl ht⟩
  | cons c nodes ih =>
    rw [List.foldlM_cons] at h
    obtain ⟨r, hc, h⟩ := exists_of_bind_eq_ok h
    obtain ⟨hdepth, hnew⟩ := each c List.mem_cons_self p r hc
    obtain ⟨hdepth', hnew'⟩ := ih (fun e he => each e (List.mem_cons_of_mem _ he)) h
    refine ⟨hdepth'.trans hdepth, ?_⟩
    intro t ht
    obtain ht | ⟨e, he, hte⟩ := hnew' t ht
    · obtain ht | ht := hnew t ht
      · exact Or.inl ht
      · exact Or.inr ⟨c, List.mem_cons_self, ht⟩
    · exact Or.inr ⟨e, List.mem_cons_of_mem _ he, hte⟩

theorem Effect.mem_rendered {entering : Bool} {t : d.Id} (h : Effect p o id entering q)
    (ht : t ∈ q.rendered) : t ∈ p.rendered ∨ t ∈ d.preorderFrom id := by
  rw [h.rendered] at ht
  obtain ht | rfl := Document.mem_noteTable ht
  · exact Or.inl ht
  · exact Or.inr (Document.mem_preorderFrom_self t)

theorem insideRendered_of_preorderFrom (hin : p.insideRendered id = false)
    (h : ∀ t ∈ q.rendered, t ∈ p.rendered ∨ t ∈ d.preorderFrom id) :
    q.insideRendered id = false := by
  rw [insideRendered, List.any_eq_false] at hin ⊢
  intro a ha hqa
  obtain ht | ht := h a (List.contains_iff_mem.mp hqa)
  · exact hin a ha (List.contains_iff_mem.mpr ht)
  · have hle := Document.le_of_mem_preorderFrom ht
    have hlt := Document.val_lt_of_mem_ancestors ha
    omega

theorem depth_of_walkFrom (h : d.walkFrom (visit o) id p = .ok q) :
    q.numbering.depth = p.numbering.depth ∧
      ∀ t ∈ q.rendered, t ∈ p.rendered ∨ t ∈ d.preorderFrom id := by
  induction id using Document.childInduction generalizing p q with
  | step id ih =>
    cases hin : p.insideRendered id with
    | true =>
      rw [walkFrom_of_insideRendered hin] at h
      cases h
      exact ⟨rfl, fun t ht => Or.inl ht⟩
    | false =>
      cases hv : visit o id true p with
      | error e =>
        rw [Document.walkFrom_of_error hv] at h
        cases h
      | ok r =>
        obtain ⟨r, status⟩ := r
        have henter := effect_of_visit hin hv
        have hdepth : r.numbering.depth =
            p.numbering.depth + if d.kind id = .list then 1 else 0 := by
          rw [henter.numbering]
          exact ListNumbering.depth_after_true _ _
        have hnew : ∀ t ∈ r.rendered, t ∈ p.rendered ∨ t ∈ d.preorderFrom id :=
          fun t ht => henter.mem_rendered ht
        rw [Document.walkFrom_of_ok hv] at h
        by_cases hleaf : (d.kind id).isLeaf = true
        · rw [if_pos hleaf] at h
          cases h
          have hk : d.kind id ≠ .list := by
            intro e
            rw [e] at hleaf
            cases hleaf
          rw [if_neg hk] at hdepth
          exact ⟨hdepth, hnew⟩
        · rw [if_neg hleaf] at h
          obtain ⟨m, hm, hexit⟩ := exists_of_bind_eq_ok h
          have hinner : m.numbering.depth = r.numbering.depth ∧
              ∀ t ∈ m.rendered, t ∈ r.rendered ∨ ∃ c ∈ d.children id, t ∈ d.preorderFrom c := by
            split_ifs at hm
            · cases hm
              exact ⟨rfl, fun t ht => Or.inl ht⟩
            · exact foldlM_walkFrom (fun c hc p q => ih c hc) hm
          obtain ⟨hsame, hbelow⟩ := hinner
          have hfinal : ∀ t ∈ m.rendered, t ∈ p.rendered ∨ t ∈ d.preorderFrom id := by
            intro t ht
            obtain ht | ⟨c, hc, ht⟩ := hbelow t ht
            · exact hnew t ht
            · exact Or.inr (Document.mem_preorderFrom_of_child hc ht)
          have hout := insideRendered_of_preorderFrom hin hfinal
          obtain ⟨status', hx⟩ := visit_of_runVisit hexit
          have hleave := effect_of_visit hout hx
          refine ⟨?_, ?_⟩
          · have hdown := ListNumbering.depth_after_false m.numbering (d.node id)
            change _ = _ - (if d.kind id = .list then 1 else 0) at hdown
            rw [hleave.numbering, hdown, hsame, hdepth, Nat.add_sub_cancel]
          · intro t ht
            obtain ht | ht := hleave.mem_rendered ht
            · exact hfinal t ht
            · exact Or.inr ht

end Pass

/-- Items are numbered from 1 in each list and indented by the lists around them, whatever else the
document holds, and a walk within any node leaves the depth of lists as it was. -/
theorem items_are_numbered (d : Document) (o : Options) (hd : d.ItemsInLists) {out : String}
    (h : render d o = .ok out) :
    (∀ s ∈ d.steps o, ∀ ordered bullet, s.visit.entering = true →
      d.node s.visit.id = .listItem ordered bullet →
      o.indentSize * (d.listDepth s.visit.id - 1) < wordLimit →
      s.after.out.toList = s.before.out.toList ++
        List.replicate (o.indentSize * (d.listDepth s.visit.id - 1)) ' ' ++
        if ordered then Text.ofNat (d.ordinal s.visit.id) ++ ['\\', '.', ' ']
        else ['\\', bullet, ' ']) ∧
    ∀ id (p q : Pass d), d.walkFrom (Pass.visit o) id p = .ok q →
      q.numbering.depth = p.numbering.depth := by
  refine ⟨?_, fun id p q hwalk => (Pass.depth_of_walkFrom hwalk).1⟩
  refine forall_mem_steps h (I := fun p visits => d.Numbered p.numbering visits)
    (motive := fun v p q => ∀ ordered bullet, v.entering = true →
      d.node v.id = .listItem ordered bullet →
      o.indentSize * (d.listDepth v.id - 1) < wordLimit →
      q.out.toList = p.out.toList ++ List.replicate (o.indentSize * (d.listDepth v.id - 1)) ' ' ++
        if ordered then Text.ofNat (d.ordinal v.id) ++ ['\\', '.', ' '] else ['\\', bullet, ' '])
    ?_ hd.numbered
  intro p q v visits hnumbered heffect
  refine ⟨?_, ?_⟩
  · intro ordered bullet hentering hn hword
    obtain ⟨hdepth, hplace⟩ := hnumbered.1 hentering
    rw [heffect.out, hentering, Pass.written_listItem hn hdepth hplace hword, List.append_assoc]
  · rw [heffect.numbering]
    exact hnumbered.2

/-- The list inside the first item does not disturb the number of the second. -/
theorem items_are_numbered_around_list :
    let d := Document.ofTrees [.node (.list true) [.node (.listItem true '-')
      [.node (.list true) [.node (.listItem true '-') []]], .node (.listItem true '-') []]]
    d.ItemsInLists ∧ render d {} = .ok "1\\.     1\\. \n2\\. \n" ∧
      ∃ s ∈ d.steps {}, s.visit = ⟨⟨5, by decide +kernel⟩, true⟩ ∧
        s.after.out.toList = s.before.out.toList ++ "2\\. ".toList := by
  intro d
  have hd : d.ItemsInLists := by decide +kernel
  have h : render d {} = .ok "1\\.     1\\. \n2\\. \n" := by decide +kernel
  have hvisit : ⟨⟨5, by decide +kernel⟩, true⟩ ∈ d.visits Pass.isTable := by decide +kernel
  rw [← Pass.map_visit_history {} (d.visits Pass.isTable) {}, List.mem_map] at hvisit
  obtain ⟨s, hs, hsv⟩ := hvisit
  have hentering : s.visit.entering = true := by rw [hsv]
  have hnode : d.node s.visit.id = .listItem true '-' := by
    rw [hsv]
    decide +kernel
  have hword : ({} : Options).indentSize * (d.listDepth s.visit.id - 1) < wordLimit := by
    rw [hsv]
    decide +kernel
  refine ⟨hd, h, s, hs, hsv, ?_⟩
  rw [(items_are_numbered d {} hd h).1 s hs true '-' hentering hnode hword, hsv, List.append_assoc]
  apply congrArg
  decide +kernel

end ChatMarkup
