import ChatMarkup.Proofs.Render.Alike

namespace ChatMarkup

theorem escapeRun_congr {literal s t : Text}
    (h : literal.head? ≠ some '.' ∨ Text.isNumber s = Text.isNumber t) :
    escapeRun literal s = escapeRun literal t := by
  obtain h | h := h
  · cases literal with
    | nil => rfl
    | cons c rest =>
      have hc : c ≠ '.' := fun e => h (congrArg some e)
      have hescaped : ∀ number, escapedAfter number c = escapedAfter false c := by
        intro number
        rw [escapedAfter, escapedAfter, if_neg hc, if_neg hc]
      rw [escapeRun, escapeRun, escapeRunFrom, escapeRunFrom, hescaped, hescaped (Text.isNumber t)]
      rfl
  · rw [escapeRun, escapeRun, h]

namespace Pass

open Document

variable {d e : Document} {o : Options}

def Step.endsParagraph (s : Step d) : Bool := d.kind s.visit.id == .paragraph && !s.visit.entering

/-- Whether a call hands something to the output, be it the empty text. -/
def Step.writes (o : Options) (s : Step d) : Bool :=
  (s.before.lastWritten? o s.visit.id s.visit.entering).isSome

/-- Some call writes before the first one that leaves a paragraph, or none leaves a paragraph. -/
def WritesFirst (o : Options) (steps : List (Step d)) : Prop :=
  (∃ s ∈ steps.takeWhile (!·.endsParagraph), s.writes o = true) ∨
    ∀ s ∈ steps, s.endsParagraph = false

instance (o : Options) (steps : List (Step d)) : Decidable (WritesFirst o steps) :=
  inferInstanceAs (Decidable (_ ∨ _))

theorem WritesFirst.of_cons {s : Step d} {steps : List (Step d)}
    (h : WritesFirst o (s :: steps)) :
    s.endsParagraph = false ∧ (s.writes o = true ∨ WritesFirst o steps) := by
  cases hs : s.endsParagraph with
  | true =>
    obtain ⟨s', hs', -⟩ | hnone := h
    · rw [List.takeWhile_cons_of_neg (by simp [hs])] at hs'
      cases hs'
    · rw [hnone s List.mem_cons_self] at hs
      cases hs
  | false =>
    refine ⟨rfl, ?_⟩
    obtain ⟨s', hs', hwrites⟩ | hnone := h
    · rw [List.takeWhile_cons_of_pos (by simp [hs])] at hs'
      obtain rfl | hs' := List.mem_cons.mp hs'
      · exact Or.inl hwrites
      · exact Or.inr (Or.inl ⟨s', hs', hwrites⟩)
    · exact Or.inr (Or.inr fun s' hs' => hnone s' (List.mem_cons_of_mem _ hs'))

/-- Passes that write the same on some visits still to come: where they differ, the visits do not
look. -/
structure Like (o : Options) (p : Pass d) (q : Pass e) (l : List d.Visit) (m : List e.Visit) :
    Prop where
  guard : d.Unguarded p.rendered l
  guard' : e.Unguarded q.rendered m
  depth : p.numbering.depth = q.numbering.depth
  numbering : p.numbering = q.numbering ∨
    e.ItemsInLists ∧ d.Numbered p.numbering l ∧ e.Numbered q.numbering m
  lastText : ∀ literal ∈ (l.filterMap Visit.text?).head?,
    escapeRun literal p.lastText = escapeRun literal q.lastText
  lastWrite : p.lastWrite = q.lastWrite ∨ WritesFirst o (history o q m)

variable {p : Pass d} {q : Pass e} {l : List d.Visit} {m : List e.Visit} {v : d.Visit}
  {w : e.Visit}

theorem Like.agree (h : Like o p q (v :: l) (w :: m)) (hvw : AlikeVisits v w) : Agree p q v w := by
  obtain ⟨halike, hentering⟩ := hvw
  refine ⟨halike, hentering, h.depth, ?_, ?_, ?_, ?_⟩
  · intro hitem hv
    -- The counters may differ except for the next number of an item, which is its place in both.
    obtain hsame | ⟨htidy, hnumbered, hnumbered'⟩ := h.numbering
    · rw [hsame]
    · have hitem' : e.isOrderedItem w.id = true := by rw [← isOrderedItem_eq halike.node, hitem]
      have hparent : (d.parent? v.id).map d.node = some (.list true) := by
        rw [halike.parent, htidy w.id hitem']
      rw [(hnumbered.1 hv).2 hitem, (hnumbered'.1 (hentering ▸ hv)).2 hitem',
        halike.ordinal hparent]
  · intro literal hliteral
    apply h.lastText
    rw [List.filterMap_cons_some hliteral]
    rfl
  · intro hk hv
    obtain hsame | hfirst := h.lastWrite
    · rw [hsame]
    · have hends : (step o q w).endsParagraph = true := by
        have hk' : e.kind w.id = .paragraph := by rw [← halike.kind, hk]
        have hw : w.entering = false := by rw [← hentering, hv]
        simp [Step.endsParagraph, step, hk', hw]
      rw [history] at hfirst
      rw [hfirst.of_cons.1] at hends
      cases hends
  · intro hk
    have hk' : e.kind w.id = .table := by rw [← halike.kind, hk]
    have hmem : v.id ∈ p.rendered ↔ w.id ∈ q.rendered := by
      rw [h.guard.2.1 hk, h.guard'.2.1 hk', hentering]
    rw [Bool.eq_iff_iff, List.contains_iff_mem, List.contains_iff_mem, hmem]

/-- One visit of both runs: they write the same, and stay alike. -/
theorem Like.step (h : Like o p q (v :: l) (w :: m)) (hvw : AlikeVisits v w)
    (hr : (d.kind v.id).isRefused = false) :
    ∃ p' q' t, runVisit (visit o) p v = .ok p' ∧ runVisit (visit o) q w = .ok q' ∧
      p'.out.toList = p.out.toList ++ t ∧ q'.out.toList = q.out.toList ++ t ∧
      Like o p' q' l m := by
  have hagree := h.agree hvw
  have hnode := hvw.1.node
  have hr' : (e.kind w.id).isRefused = false := by rw [← hvw.1.kind, hr]
  obtain ⟨p', hp, -, heffect, hguard⟩ := step_of_unguarded (o := o) h.guard hr
  obtain ⟨q', hq, hafter, heffect', hguard'⟩ := step_of_unguarded (o := o) h.guard' hr'
  refine ⟨p', q', p.written o v.id v.entering, hp, hq, heffect.out, ?_, hguard, hguard', ?_, ?_,
    ?_, ?_⟩
  · rw [heffect'.out, hagree.written]
  · rw [heffect.numbering, heffect'.numbering, ← hnode, ← hvw.2]
    cases v.entering with
    | true =>
      rw [ListNumbering.depth_after_true, ListNumbering.depth_after_true, h.depth]
    | false =>
      rw [ListNumbering.depth_after_false, ListNumbering.depth_after_false, h.depth]
  · rw [heffect.numbering, heffect'.numbering]
    obtain hsame | ⟨htidy, hnumbered, hnumbered'⟩ := h.numbering
    · rw [hsame, hnode, hvw.2]
      exact Or.inl rfl
    · exact Or.inr ⟨htidy, hnumbered.2, hnumbered'.2⟩
  · have htext : p'.lastText = v.text?.getD p.lastText := heffect.lastText
    have htext' : q'.lastText = w.text?.getD q.lastText := heffect'.lastText
    rw [htext, htext', ← hvw.text?]
    cases hliteral : v.text? with
    | some literal => exact fun _ _ => rfl
    | none =>
      have hrest := h.lastText
      rw [List.filterMap_cons_none hliteral] at hrest
      exact hrest
  · rw [heffect.lastWrite, heffect'.lastWrite, hagree.lastWritten?]
    -- A write makes the lengths equal; until there is one, no visit has left a paragraph.
    cases hwritten : q.lastWritten? o w.id w.entering with
    | some t => exact Or.inl rfl
    | none =>
      obtain hsame | hfirst := h.lastWrite
      · exact Or.inl hsame
      · rw [history, hafter] at hfirst
        obtain hwrites | hfirst := hfirst.of_cons.2
        · have hnone : (Pass.step o q w).writes o = false := by
            rw [Step.writes, Pass.step, hwritten]
            rfl
          rw [hnone] at hwrites
          cases hwrites
        · exact Or.inr hfirst

theorem run_of_like (hlm : List.Forall₂ AlikeVisits l m)
    (hr : ∀ v ∈ l, (d.kind v.id).isRefused = false) (h : Like o p q l m) :
    ∃ p' q' t, l.foldlM (runVisit (visit o)) p = .ok p' ∧
      m.foldlM (runVisit (visit o)) q = .ok q' ∧
      p'.out.toList = p.out.toList ++ t ∧ q'.out.toList = q.out.toList ++ t := by
  induction hlm generalizing p q with
  | nil => exact ⟨p, q, [], rfl, rfl, (List.append_nil _).symm, (List.append_nil _).symm⟩
  | @cons v w l m hvw _ ih =>
    obtain ⟨p', q', t, hp, hq, hout, hout', hlike⟩ := h.step hvw (hr v List.mem_cons_self)
    obtain ⟨p₂, q₂, t₂, hp₂, hq₂, hrest, hrest'⟩ :=
      ih (fun v hv => hr v (List.mem_cons_of_mem _ hv)) hlike
    refine ⟨p₂, q₂, t ++ t₂, ?_, ?_, ?_, ?_⟩
    · rw [List.foldlM_cons, hp]
      exact hp₂
    · rw [List.foldlM_cons, hq]
      exact hq₂
    · rw [hrest, hout, List.append_assoc]
    · rw [hrest', hout', List.append_assoc]

theorem effect_of_run (hguard : d.Unguarded p.rendered l)
    (hr : ∀ v ∈ l, (d.kind v.id).isRefused = false) :
    ∃ q, l.foldlM (runVisit (visit o)) p = .ok q ∧
      q.lastText = (l.filterMap Visit.text?).getLast?.getD p.lastText ∧
      q.rendered = d.noteTables p.rendered l := by
  induction l generalizing p with
  | nil => exact ⟨p, rfl, rfl, rfl⟩
  | cons v l ih =>
    obtain ⟨q, hq, -, heffect, hrest⟩ :=
      step_of_unguarded (o := o) hguard (hr v List.mem_cons_self)
    obtain ⟨r, hrun, htext, hrendered⟩ :=
      ih hrest fun v hv => hr v (List.mem_cons_of_mem _ hv)
    refine ⟨r, ?_, ?_, ?_⟩
    · rw [List.foldlM_cons, hq]
      exact hrun
    · have hq : q.lastText = v.text?.getD p.lastText := heffect.lastText
      rw [htext, hq]
      cases hliteral : v.text? with
      | none =>
        rw [List.filterMap_cons_none hliteral]
        rfl
      | some literal =>
        rw [List.filterMap_cons_some hliteral, List.getLast?_cons]
        rfl
    · rw [hrendered, heffect.rendered]
      rfl

end Pass

namespace Document

open Pass

variable {d e : Document} {o : Options} {first second nodes : List d.Id} {rendered : List d.Id}

/-- The visits of a walk that goes below some children of the root only. -/
def visitsUnder (d : Document) (nodes : List d.Id) : List d.Visit :=
  ⟨d.root, true⟩ :: (nodes.flatMap (d.visitsFrom isTable) ++ [⟨d.root, false⟩])

theorem visits_eq (d : Document) : d.visits isTable = d.visitsUnder (d.children d.root) := by
  rw [visits, visitsFrom_eq, kind_root]
  rfl

theorem runVisit_root (o : Options) (entering : Bool) (p : Pass d) :
    runVisit (visit o) p ⟨d.root, entering⟩ = .ok p := by
  have hin : p.insideRendered d.root = false := by
    rw [insideRendered, ancestors_root]
    rfl
  have hvisit : visit o d.root entering p = .ok (p, .goToNext) := by
    rw [visit_eq_outcome_mark hin, mark, node_root]
    rfl
  exact runVisit_of_ok hvisit

theorem foldlM_visitsUnder (o : Options) (nodes : List d.Id) (p : Pass d) :
    (d.visitsUnder nodes).foldlM (runVisit (visit o)) p =
      (nodes.flatMap (d.visitsFrom isTable)).foldlM (runVisit (visit o)) p := by
  rw [visitsUnder, List.foldlM_cons, runVisit_root]
  change List.foldlM _ p _ = _
  rw [List.foldlM_append]
  cases (nodes.flatMap (d.visitsFrom isTable)).foldlM (runVisit (visit o)) p with
  | error e => rfl
  | ok q =>
    change List.foldlM _ q _ = _
    rw [List.foldlM_cons, runVisit_root]
    rfl

theorem render_eq_visitsUnder (o : Options) (hsplit : d.children d.root = first ++ second) :
    render d o = ((d.visitsUnder first).foldlM (runVisit (visit o)) {} >>=
      (d.visitsUnder second).foldlM (runVisit (visit o))).map (·.out) := by
  rw [render_eq, visits_eq, hsplit, foldlM_visitsUnder, List.flatMap_append, List.foldlM_append,
    foldlM_visitsUnder]
  apply congrArg
  apply congrArg
  funext p
  rw [foldlM_visitsUnder]

theorem noteTable_root (rendered : List d.Id) : d.noteTable rendered d.root = rendered := by
  rw [noteTable, kind_root]
  rfl

theorem noteTables_visitsUnder (rendered nodes : List d.Id) :
    d.noteTables rendered (d.visitsUnder nodes) =
      d.noteTables rendered (nodes.flatMap (d.visitsFrom isTable)) := by
  rw [visitsUnder, noteTables, List.foldl_cons, noteTable_root, ← noteTables, noteTables_append]
  exact noteTable_root _

theorem unguarded_visitsUnder :
    d.Unguarded rendered (d.visitsUnder nodes) ↔
      d.Unguarded rendered (nodes.flatMap (d.visitsFrom isTable)) := by
  have hroot : ∀ (rendered : List d.Id) entering (l : List d.Visit),
      d.Unguarded rendered (⟨d.root, entering⟩ :: l) ↔ d.Unguarded rendered l := by
    intro rendered entering l
    have hnone : ∀ a ∈ d.ancestors d.root, a ∉ rendered := by
      rw [ancestors_root]
      exact List.forall_mem_nil _
    have hk : d.kind d.root ≠ .table := by
      rw [kind_root]
      decide
    rw [Unguarded, noteTable_root]
    constructor
    · exact fun h => h.2.2
    · exact fun h => ⟨hnone, fun e => absurd e hk, h⟩
  rw [visitsUnder, hroot, unguarded_append, hroot]
  exact and_iff_left trivial

/-- The kinds that a rendering comes to and refuses, the first of them. -/
def refused? (d : Document) (nodes : List d.Id) : Option Kind :=
  ((d.visitsUnder nodes).map (d.kind ·.id)).find? Kind.isRefused

theorem refused?_eq (nodes : List d.Id) :
    d.refused? nodes =
      ((nodes.flatMap (d.visitsFrom isTable)).map (d.kind ·.id)).find? Kind.isRefused := by
  have hroot : (d.kind d.root).isRefused = false := by
    rw [kind_root]
    rfl
  rw [refused?, visitsUnder, List.map_cons, List.find?_cons_of_neg (by simp [hroot]),
    List.map_append, List.find?_append]
  simp [hroot]

theorem refused?_append (first second : List d.Id) :
    d.refused? (first ++ second) = (d.refused? first).or (d.refused? second) := by
  rw [refused?_eq, refused?_eq, refused?_eq, List.flatMap_append, List.map_append,
    List.find?_append]

theorem render_eq_error_iff_refused? {err : RenderError} :
    render d o = .error err ↔
      ∃ k, d.refused? (d.children d.root) = some k ∧ err = .unsupported k := by
  have hfind : d.refused? (d.children d.root) = (d.preorder.find? d.isReported).map d.kind := by
    rw [refused?, ← visits_eq, List.find?_map, ← d.find?_visits_isRefused, Option.map_map]
    rfl
  rw [render_eq_error_iff, hfind]
  constructor
  · intro h
    obtain ⟨id, hid, rfl⟩ := h
    exact ⟨_, by rw [hid]; rfl, rfl⟩
  · intro h
    obtain ⟨k, hk, rfl⟩ := h
    obtain ⟨id, hid, rfl⟩ := Option.map_eq_some_iff.mp hk
    exact ⟨id, hid, rfl⟩

theorem refused?_eq_none {out : String} (h : render d o = .ok out) :
    d.refused? (d.children d.root) = none := by
  by_contra hsome
  obtain ⟨k, hk⟩ := Option.ne_none_iff_exists'.mp hsome
  have herr : render d o = .error (.unsupported k) :=
    render_eq_error_iff_refused?.mpr ⟨k, hk, rfl⟩
  rw [h] at herr
  cases herr

theorem forall₂_visitsUnder {before after : List d.Id}
    (hsplit : d.children d.root = before ++ nodes ++ after) (he : e.forest = nodes.map d.toTree) :
    List.Forall₂ AlikeVisits (d.visitsUnder nodes) (e.visits isTable) := by
  have htwins : List.Forall₂ Twin nodes (e.children e.root) := forall₂_twin_iff.mpr he.symm
  have halike : List.Forall₂ (fun c c' => Twin c c' ∧ Alike c c') nodes (e.children e.root) := by
    have hwhole : e.children e.root = [] ++ e.children e.root ++ [] := by simp
    apply forall₂_alike htwins alike_root.node alike_root.depth hsplit hwhole
    · intro hk
      rw [kind_root] at hk
      cases hk
    · intro hlist
      rw [node_root] at hlist
      cases hlist
  have hinner : List.Forall₂ AlikeVisits (nodes.flatMap (d.visitsFrom isTable))
      ((e.children e.root).flatMap (e.visitsFrom isTable)) := by
    apply forall₂_flatMap halike
    intro c _ c' hcc
    exact forall₂_visitsFrom hcc.1 hcc.2
  have hexit : List.Forall₂ AlikeVisits [(⟨d.root, false⟩ : d.Visit)] [⟨e.root, false⟩] :=
    List.Forall₂.cons ⟨alike_root, rfl⟩ List.Forall₂.nil
  rw [visits_eq]
  exact List.Forall₂.cons ⟨alike_root, rfl⟩ (List.rel_append hinner hexit)

theorem unguarded_parts (hsplit : d.children d.root = first ++ second) :
    d.Unguarded [] (d.visitsUnder first) ∧
      d.Unguarded (d.noteTables [] (d.visitsUnder first)) (d.visitsUnder second) := by
  have hguard := d.unguarded_visits
  rw [visits_eq, hsplit, unguarded_visitsUnder, List.flatMap_append, unguarded_append] at hguard
  rw [unguarded_visitsUnder, unguarded_visitsUnder, noteTables_visitsUnder]
  exact hguard

theorem depth_of_run {p q : Pass d}
    (h : (d.visitsUnder nodes).foldlM (runVisit (visit o)) p = .ok q) :
    q.numbering.depth = p.numbering.depth := by
  have hwalk : nodes.foldlM (fun p c => d.walkFrom (visit o) c p) p =
      (nodes.flatMap (d.visitsFrom isTable)).foldlM (runVisit (visit o)) p :=
    foldlM_flatMap (fun c _ s => walkFrom_eq_foldlM (keepsTo_visit o) c s) p
  rw [foldlM_visitsUnder, ← hwalk] at h
  exact (foldlM_walkFrom (fun c _ p q hc => depth_of_walkFrom hc) h).1

theorem Twin.itemsInListsBelow {i : d.Id} {j : e.Id} (h : Twin i j)
    (hj : e.ItemsInListsBelow j) : d.ItemsInListsBelow i := by
  induction i using childInduction generalizing j with
  | step i ih =>
    intro x hx c hc hitem
    rw [preorderFrom_eq, List.mem_cons, List.mem_flatMap] at hx
    obtain rfl | ⟨y, hy, hxy⟩ := hx
    · obtain ⟨c', hc', hcc⟩ := exists_mem_of_forall₂ h.children hc
      rw [isOrderedItem_eq hcc.node] at hitem
      rw [h.node]
      exact hj j (mem_preorderFrom_self j) c' hc' hitem
    · obtain ⟨y', hy', hyy⟩ := exists_mem_of_forall₂ h.children hy
      exact ih y hy hyy (hj.child hy') x hxy c hc hitem

/-- Below some children of the root the numbering fits if the items there stand in lists, whatever
counters it starts with. -/
theorem numbered_visitsUnder (he : e.forest = nodes.map d.toTree) (hitems : e.ItemsInLists)
    (hnodes : ∀ c ∈ nodes, c ∈ d.children d.root) {l : ListNumbering} (hl : l.depth = 0) :
    d.Numbered l (d.visitsUnder nodes) := by
  have htwins : List.Forall₂ Twin nodes (e.children e.root) := forall₂_twin_iff.mpr he.symm
  have hdepth : ∀ c ∈ nodes, l.depth = d.listDepth c := by
    intro c hc
    rw [listDepth_of_mem_children (hnodes c hc), listDepth, ancestors_root, kind_root, hl]
    rfl
  have hbelow : ∀ c ∈ nodes, d.ItemsInListsBelow c := by
    intro c hc
    obtain ⟨c', -, hcc⟩ := exists_mem_of_forall₂ htwins hc
    exact hcc.itemsInListsBelow (hitems.below c')
  have hnone : ∀ c ∈ nodes, d.isOrderedItem c ≠ true := by
    intro c hc hitem
    obtain ⟨c', hc', hcc⟩ := exists_mem_of_forall₂ htwins hc
    rw [isOrderedItem_eq hcc.node] at hitem
    have hparent := hitems c' hitem
    rw [(e.mem_children_iff).mp hc', Option.map_some, node_root] at hparent
    cases hparent
  have hinner : d.Numbered l (nodes.flatMap (d.visitsFrom isTable)) := by
    apply numbered_flatMap hbelow
    · intro c hc l hl hplace
      exact numbered_visitsFrom (hbelow c hc) l hl hplace
    · exact hdepth
    · intro before c after hsplit hitem
      have hc : c ∈ nodes := by
        rw [hsplit]
        exact List.mem_append_right _ List.mem_cons_self
      exact absurd hitem (hnone c hc)
  have hroot : l.depth = d.listDepth d.root := by
    rw [listDepth, ancestors_root, hl]
    rfl
  have hexit : ∀ l, d.Numbered l [⟨d.root, false⟩] := fun l =>
    ⟨fun hentering => absurd hentering Bool.false_ne_true, trivial⟩
  have hitem : d.isOrderedItem d.root = false := by
    rw [isOrderedItem, node_root]
  have hafter : l.after (d.node d.root) true = l := by
    rw [node_root]
    rfl
  refine ⟨fun _ => ⟨hroot, fun h => ?_⟩, ?_⟩
  · rw [hitem] at h
    cases h
  · rw [hafter]
    exact numbered_append.mpr ⟨hinner, hexit _⟩

theorem text?_eq_of_forall₂ {l : List d.Visit} {m : List e.Visit}
    (h : List.Forall₂ AlikeVisits l m) : l.filterMap Visit.text? = m.filterMap Visit.text? := by
  induction h with
  | nil => rfl
  | @cons v w l m hvw _ ih =>
    cases hliteral : v.text? with
    | none =>
      rw [List.filterMap_cons_none hliteral, List.filterMap_cons_none (hvw.text? ▸ hliteral), ih]
    | some literal =>
      rw [List.filterMap_cons_some hliteral, List.filterMap_cons_some (hvw.text? ▸ hliteral), ih]

theorem refused?_of_part {before after : List d.Id}
    (hsplit : d.children d.root = before ++ nodes ++ after) (he : e.forest = nodes.map d.toTree) :
    d.refused? nodes = e.refused? (e.children e.root) := by
  have hkinds := map_eq_of_forall₂ (forall₂_visitsUnder hsplit he) fun v w hvw => hvw.1.kind
  rw [refused?, refused?, ← visits_eq]
  exact congrArg (List.find? Kind.isRefused) hkinds

theorem isRefused_of_part {before after : List d.Id} {out : String}
    (hsplit : d.children d.root = before ++ nodes ++ after) (he : e.forest = nodes.map d.toTree)
    (hout : render e o = .ok out) :
    ∀ v ∈ d.visitsUnder nodes, (d.kind v.id).isRefused = false := by
  intro v hv
  obtain ⟨w, hw, hvw⟩ := exists_mem_of_forall₂ (forall₂_visitsUnder hsplit he) hv
  rw [hvw.1.kind]
  exact not_isRefused_of_render hout w hw

/-- Where the passes are alike, a part adds to the output what it gives on its own. -/
theorem run_of_part {before after : List d.Id} {out : String} {p : Pass d}
    (hsplit : d.children d.root = before ++ nodes ++ after) (he : e.forest = nodes.map d.toTree)
    (h : Like o p ({} : Pass e) (d.visitsUnder nodes) (e.visits isTable))
    (hout : render e o = .ok out) :
    ∃ q, (d.visitsUnder nodes).foldlM (runVisit (visit o)) p = .ok q ∧ q.out = p.out ++ out := by
  obtain ⟨p', q', t, hp, hq, htext, htext'⟩ :=
    run_of_like (forall₂_visitsUnder hsplit he) (isRefused_of_part hsplit he hout) h
  rw [render_eq, hq] at hout
  have hout : q'.out = out := Except.ok.inj hout
  have ht : out.toList = t := by rw [← hout, htext']; rfl
  refine ⟨p', hp, ?_⟩
  apply String.toList_injective
  rw [htext, String.toList_append, ht]

theorem run_of_first {out : String} (hsplit : d.children d.root = first ++ second)
    (he : e.forest = first.map d.toTree) (hout : render e o = .ok out) :
    ∃ p, (d.visitsUnder first).foldlM (runVisit (visit o)) {} = .ok p ∧ p.out = out ∧
      p.numbering.depth = 0 ∧
      p.lastText = ((e.visits isTable).filterMap Visit.text?).getLast?.getD [] ∧
      p.rendered = d.noteTables [] (d.visitsUnder first) := by
  have hfirst : d.children d.root = [] ++ first ++ second := hsplit
  have hguard := (unguarded_parts hsplit).1
  have hlike : Like o ({} : Pass d) ({} : Pass e) (d.visitsUnder first) (e.visits isTable) :=
    ⟨hguard, e.unguarded_visits, rfl, Or.inl rfl, fun _ _ => rfl, Or.inl rfl⟩
  obtain ⟨p, hp, hpout⟩ := run_of_part hfirst he hlike hout
  obtain ⟨q, hq, htext, hrendered⟩ :=
    effect_of_run (o := o) (p := {}) hguard (isRefused_of_part hfirst he hout)
  have hsame : q = p := Except.ok.inj (hq.symm.trans hp)
  subst hsame
  rw [text?_eq_of_forall₂ (forall₂_visitsUnder hfirst he)] at htext
  refine ⟨q, hp, ?_, depth_of_run hp, htext, hrendered⟩
  rw [hpout]
  exact String.empty_append

/-- What a first part leaves does not reach the second one, if that opens with no period after a
number and writes something before it first leaves a paragraph. -/
theorem like_second {p : Pass d} (hsplit : d.children d.root = first ++ second)
    (he : e.forest = second.map d.toTree) (hitems : e.ItemsInLists)
    (hdepth : p.numbering.depth = 0)
    (hrendered : p.rendered = d.noteTables [] (d.visitsUnder first))
    (hperiod : ∀ literal ∈ ((e.visits isTable).filterMap Visit.text?).head?,
      literal.head? ≠ some '.' ∨ Text.isNumber p.lastText = false)
    (hwrites : WritesFirst o (e.steps o)) :
    Like o p ({} : Pass e) (d.visitsUnder second) (e.visits isTable) := by
  have hsecond : d.children d.root = first ++ second ++ [] := by rw [hsplit, List.append_nil]
  have hnodes : ∀ c ∈ second, c ∈ d.children d.root := by
    intro c hc
    rw [hsplit]
    exact List.mem_append_right _ hc
  refine ⟨?_, e.unguarded_visits, hdepth, ?_, ?_, Or.inr hwrites⟩
  · rw [hrendered]
    exact (unguarded_parts hsplit).2
  · exact Or.inr ⟨hitems, numbered_visitsUnder he hitems hnodes hdepth, hitems.numbered⟩
  · intro literal hliteral
    rw [text?_eq_of_forall₂ (forall₂_visitsUnder hsecond he)] at hliteral
    exact escapeRun_congr (hperiod literal hliteral)

end Document

open Document Pass

/-- What a second part writes does not depend on the first part, if its numbered items stand in
lists, it does not open with a period after a number, and it writes something before it first
leaves a paragraph. A failure of the first part comes first. -/
theorem render_of_parts (d a b : Document) (o : Options) {first second : List d.Id}
    (hsplit : d.children d.root = first ++ second) (ha : a.forest = first.map d.toTree)
    (hb : b.forest = second.map d.toTree) :
    (∀ err, render a o = .error err → render d o = .error err) ∧
    (∀ outA err, render a o = .ok outA → render b o = .error err → render d o = .error err) ∧
    ∀ outA outB, render a o = .ok outA → render b o = .ok outB → b.ItemsInLists →
      ((∀ literal ∈ ((b.visits isTable).filterMap Visit.text?).head?, literal.head? ≠ some '.') ∨
        ∀ literal ∈ ((a.visits isTable).filterMap Visit.text?).getLast?,
          Text.isNumber literal = false) →
      WritesFirst o (b.steps o) → render d o = .ok (outA ++ outB) := by
  have hfirst : d.children d.root = [] ++ first ++ second := hsplit
  have hsecond : d.children d.root = first ++ second ++ [] := by rw [hsplit, List.append_nil]
  have hrefused : d.refused? (d.children d.root) =
      (a.refused? (a.children a.root)).or (b.refused? (b.children b.root)) := by
    rw [← refused?_of_part hfirst ha, ← refused?_of_part hsecond hb, hsplit, refused?_append]
  refine ⟨?_, ?_, ?_⟩
  · intro err herr
    rw [render_eq_error_iff_refused?] at herr ⊢
    obtain ⟨k, hk, rfl⟩ := herr
    exact ⟨k, by rw [hrefused, hk, Option.some_or], rfl⟩
  · intro outA err houtA herr
    have hnone := refused?_eq_none houtA
    rw [render_eq_error_iff_refused?] at herr ⊢
    obtain ⟨k, hk, rfl⟩ := herr
    exact ⟨k, by rw [hrefused, hnone, hk, Option.none_or], rfl⟩
  · intro outA outB houtA houtB hitems hperiod hwrites
    obtain ⟨p, hp, rfl, hdepth, htext, hrendered⟩ := run_of_first hsplit ha houtA
    have hperiod' : ∀ literal ∈ ((b.visits isTable).filterMap Visit.text?).head?,
        literal.head? ≠ some '.' ∨ Text.isNumber p.lastText = false := by
      intro literal hliteral
      obtain hperiod | hperiod := hperiod
      · exact Or.inl (hperiod literal hliteral)
      · refine Or.inr ?_
        rw [htext]
        cases hlast : ((a.visits isTable).filterMap Visit.text?).getLast? with
        | none => rfl
        | some number => exact hperiod number hlast
    have hlike := like_second hsplit hb hitems hdepth hrendered hperiod' hwrites
    obtain ⟨q, hq, hqout⟩ := run_of_part hsecond hb hlike houtB
    rw [render_eq_visitsUnder o hsplit, hp]
    change ((d.visitsUnder second).foldlM (runVisit (visit o)) p).map _ = _
    rw [hq, Except.map, hqout]

/-- The second list starts at 1 again, though the first one left its counter behind. -/
theorem render_of_two_lists :
    let first : List Tree := [.node (.list true) [.node (.listItem true '-') [],
      .node (.listItem true '-') [.node (.text ['7']) []]]]
    let second : List Tree := [.node (.list true) [.node (.listItem true '-')
      [.node .paragraph [.node (.text ['a']) []]]]]
    render (ofTrees first) {} = .ok "1\\. 2\\. 7\n" ∧
      render (ofTrees second) {} = .ok "1\\. a\n\n" ∧
      render (ofTrees (first ++ second)) {} = .ok ("1\\. 2\\. 7\n" ++ "1\\. a\n\n") := by
  intro first second
  have hfirst : render (ofTrees first) {} = .ok "1\\. 2\\. 7\n" := by decide +kernel
  have hsecond : render (ofTrees second) {} = .ok "1\\. a\n\n" := by decide +kernel
  have hitems : (ofTrees second).ItemsInLists := by decide +kernel
  have hwrites : WritesFirst {} ((ofTrees second).steps {}) := by decide +kernel
  have hperiod : ∀ literal ∈ (((ofTrees second).visits isTable).filterMap Visit.text?).head?,
      literal.head? ≠ some '.' := by
    decide +kernel
  have htrees := forest_ofTrees (first ++ second)
  have ha : (ofTrees first).forest =
      (((ofTrees (first ++ second)).children (root _)).take 1).map (toTree _) := by
    rw [List.map_take, ← forest, htrees, forest_ofTrees]
    rfl
  have hb : (ofTrees second).forest =
      (((ofTrees (first ++ second)).children (root _)).drop 1).map (toTree _) := by
    rw [List.map_drop, ← forest, htrees, forest_ofTrees]
    rfl
  have hparts := render_of_parts (ofTrees (first ++ second)) (ofTrees first) (ofTrees second) {}
    (List.take_append_drop 1 _).symm ha hb
  exact ⟨hfirst, hsecond, hparts.2.2 _ _ hfirst hsecond hitems (Or.inl hperiod) hwrites⟩

end ChatMarkup
