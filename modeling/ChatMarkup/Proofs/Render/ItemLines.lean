import ChatMarkup.Proofs.Document.Traversal
import ChatMarkup.Proofs.Render.Markup
import ChatMarkup.Proofs.Render.ParagraphEnd
import ChatMarkup.Proofs.Table.LineBreaks

namespace ChatMarkup

theorem mem_escapeChar_iff {escaped : Bool} {c x : Char} (hx : x ≠ '\\') :
    x ∈ escapeChar escaped c ↔ x = c := by
  cases escaped <;> simp [escapeChar, hx]

theorem mem_escapeLiteral_iff {x : Char} (hx : x ≠ '\\') {t : Text} :
    x ∈ escapeLiteral t ↔ x ∈ t := by
  induction t with
  | nil => rfl
  | cons c t ih => rw [escapeLiteral, List.mem_append, mem_escapeChar_iff hx, ih, List.mem_cons]

theorem mem_escapeDestination_iff {x : Char} (hx : x ≠ '\\') {t : Text} :
    x ∈ escapeDestination t ↔ x ∈ t := by
  induction t with
  | nil => rfl
  | cons c t ih => rw [escapeDestination, List.mem_append, mem_escapeChar_iff hx, ih, List.mem_cons]

theorem mem_dropWhile_iff {α : Type} {p : α → Bool} {x : α} (hx : p x = false) {l : List α} :
    x ∈ l.dropWhile p ↔ x ∈ l := by
  constructor
  · exact fun h => (List.dropWhile_suffix p).subset h
  · intro h
    rw [← List.takeWhile_append_dropWhile (p := p) (l := l), List.mem_append] at h
    refine h.resolve_left fun htake => ?_
    rw [List.mem_takeWhile_imp htake] at hx
    cases hx

namespace Document

variable {d : Document} {o : Options} {a b c id l : d.Id}

/-- The nodes that are meant to end their last line: paragraphs, headings, lists, blocks of code and
HTML, tables with cells, and quotes around such a node. -/
def isBlock (d : Document) (id : d.Id) : Bool :=
  match d.node id with
  | .paragraph | .heading _ _ | .list _ | .codeBlock _ _ | .htmlBlock _ => true
  | .table => (d.grid? id).isSome
  | .blockQuote _ => (d.children id).attach.any fun c => isBlock d c.val
  | _ => false
termination_by d.size - id.val
decreasing_by
  have := d.val_lt_of_mem_children c.property
  have := c.val.isLt
  omega

/-- The documents in which lists hold items only, items stand in lists only, and items hold blocks
only. -/
structure ItemsOfBlocks (d : Document) : Prop where
  items_of_list : ∀ l, d.kind l = .list → ∀ c ∈ d.children l, d.kind c = .listItem
  list_of_item : ∀ id, d.kind id = .listItem → ∃ l, d.parent? id = some l ∧ d.kind l = .list
  blocks_of_item : ∀ id, d.kind id = .listItem → ∀ c ∈ d.children id, d.isBlock c = true

/-- Whether a visit of a rendering breaks a line whatever stands before it. The end of a paragraph
does so only in its place. -/
def Visit.breaksLine (o : Options) (v : d.Visit) : Bool :=
  match d.node v.id with
  | .heading level literal =>
    !v.entering || (o.headingMarker level).contains '\n' || literal.contains '\n'
  | .list _ => !v.entering
  | .listItem ordered bullet => v.entering && !ordered && bullet == '\n'
  | .blockQuote literal => v.entering && literal.contains '\n'
  | .codeBlock _ _ | .htmlBlock _ => true
  | .table => v.entering && (d.grid? v.id).isSome
  | .link destination title | .image destination title =>
    !v.entering && (destination.contains '\n' || title.contains '\n')
  | .code literal | .htmlSpan literal => literal.contains '\n'
  | .math literal => (Pass.formula o literal).contains '\n'
  | .mathBlock literal => !Pass.isSuppressed o literal
  | _ => false

end Document

namespace Pass

variable {d : Document} {o : Options} {p : Pass d} {v : d.Visit} {literal : Text}

theorem newline_notMem_textPiece (p : Pass d) (literal : Text) : '\n' ∉ p.textPiece literal := by
  unfold textPiece
  dsimp only
  split_ifs
  · exact List.not_mem_nil
  · exact (isSqueezed_collapseFrom false _).newline

theorem newline_mem_headingPiece_iff {level : Nat} {entering : Bool} :
    '\n' ∈ headingPiece o level literal entering ↔
      entering = false ∨ '\n' ∈ o.headingMarker level ∨ '\n' ∈ literal := by
  have hliteral := mem_escapeLiteral_iff (x := '\n') (by decide) (t := literal)
  cases entering <;> simp [headingPiece, hliteral]

theorem newline_mem_itemPiece_iff {ordered : Bool} {bullet : Char} :
    '\n' ∈ p.itemPiece o ordered bullet ↔ ordered = false ∧ bullet = '\n' := by
  have hindent : '\n' ∉ p.numbering.indent o.indentSize := by
    rw [ListNumbering.indent]
    simp
  have hnumber : '\n' ∉ Text.ofNat p.numbering.next.1 := by
    intro h
    have hdigit := Nat.isDigit_of_mem_toDigits (by decide) (by decide) h
    exact absurd hdigit (by decide)
  cases ordered <;> simp [itemPiece, hindent, hnumber, eq_comm]

theorem newline_mem_quotePiece_iff {id : d.Id} : '\n' ∈ quotePiece id literal ↔ '\n' ∈ literal := by
  have hmark : '\n' ∉ (if isMarkedQuote id then ['>'] else []) := by split_ifs <;> decide
  rw [quotePiece, List.mem_append, or_iff_right hmark, mem_dropWhile_iff (by decide),
    mem_escapeLiteral_iff (by decide)]

theorem newline_mem_linkPiece_iff {destination title : Text} {entering : Bool} :
    '\n' ∈ linkPiece destination title entering ↔
      entering = false ∧ ('\n' ∈ destination ∨ '\n' ∈ title) := by
  have hdestination := mem_escapeDestination_iff (x := '\n') (by decide) (t := destination)
  cases entering with
  | true => simp [linkPiece]
  | false => cases title <;> simp [linkPiece, hdestination]

theorem newline_mem_mathPiece_iff : '\n' ∈ mathPiece o literal ↔ '\n' ∈ formula o literal := by
  simp [mathPiece, mem_escapeLiteral_iff (x := '\n') (by decide)]

theorem newline_mem_mathBlockPiece_iff :
    '\n' ∈ mathBlockPiece o literal ↔ isSuppressed o literal = false := by
  rw [mathBlockPiece]
  split_ifs with h <;> simp [h]

theorem newline_mem_renderTable_iff {id : d.Id} :
    '\n' ∈ d.renderTable id o.table ↔ (d.grid? id).isSome = true := by
  rw [Document.renderTable]
  cases d.grid? id with
  | none => simp
  | some g => simp [Grid.render]

/-- A paragraph breaks the line before it and the line after it at its end, if the last write was
not empty. -/
theorem newline_mem_paragraphPiece_iff {id : d.Id} {entering : Bool} :
    '\n' ∈ p.paragraphPiece id entering ↔ entering = false ∧ 0 < p.lastWrite := by
  cases entering with
  | true =>
    rw [paragraphPiece, if_pos rfl]
    cases item? id with
    | none => simp
    | some item =>
      dsimp only
      split_ifs <;> simp
  | false =>
    rw [paragraphPiece, if_neg Bool.false_ne_true]
    split_ifs <;> simp_all

/-- Which visits break a line: those that do so anywhere, and the end of a paragraph after a write
that was not empty. A table breaks lines on entry, while it is not yet rendered. -/
theorem newline_mem_written_iff
    (htable : d.kind v.id = .table → (v.id ∈ p.rendered ↔ v.entering = false)) :
    '\n' ∈ p.written o v.id v.entering ↔
      v.breaksLine o = true ∨ d.kind v.id = .paragraph ∧ v.entering = false ∧ 0 < p.lastWrite := by
  obtain ⟨id, entering⟩ := v
  rw [Document.kind] at htable ⊢
  unfold written piece Document.Visit.breaksLine
  dsimp only at htable ⊢
  cases hn : d.node id with
  | table =>
    rw [hn] at htable
    have hmem := htable rfl
    cases entering <;> simp [hmem, Node.kind, newline_mem_renderTable_iff]
  | text literal => simp [newline_notMem_textPiece, Node.kind]
  | heading level literal =>
    simp [newline_mem_headingPiece_iff, Node.kind, or_assoc]
  | list ordered => cases entering <;> simp [Node.kind]
  | listItem ordered bullet =>
    cases entering <;> simp [newline_mem_itemPiece_iff, Node.kind]
  | paragraph => simp [newline_mem_paragraphPiece_iff, Node.kind]
  | blockQuote literal => cases entering <;> simp [newline_mem_quotePiece_iff, Node.kind]
  | link destination title | image destination title =>
    simp [newline_mem_linkPiece_iff, Node.kind]
  | math literal => simp [newline_mem_mathPiece_iff, Node.kind]
  | mathBlock literal => simp [newline_mem_mathBlockPiece_iff, Node.kind]
  | codeBlock literal info => simp [codeBlockPiece, Node.kind]
  | _ => simp [Node.kind]

/-- Whether some calls break a line: one of them does so anywhere, or one is the end of a paragraph
and the last of them that wrote before it did not end with an empty write. -/
def BreakLines (o : Options) (steps : List (Step d)) : Prop :=
  ∃ before t after, steps = before ++ t :: after ∧ (t.visit.breaksLine o = true ∨
    t.endsParagraph = true ∧
      ∃ s ∈ (before.filter (·.writes o)).getLast?, s.visit.endsBlank = false)

theorem out_of_isChain {between last : List (Step d)} {s t : Step d}
    (hchain : (s :: (between ++ t :: last)).IsChain fun s s' => s'.before = s.after)
    (heffect : ∀ u ∈ s :: between, Effect u.before o u.visit.id u.visit.entering u.after) :
    t.before.out.toList = s.before.out.toList ++
      (s :: between).flatMap fun u => u.before.written o u.visit.id u.visit.entering := by
  induction between generalizing s with
  | nil =>
    obtain ⟨hnext, -⟩ := List.isChain_cons.mp hchain
    rw [hnext t rfl, (heffect s List.mem_cons_self).out]
    simp
  | cons u between ih =>
    obtain ⟨hnext, hchain⟩ := List.isChain_cons.mp hchain
    have hrest := ih hchain fun v hv => heffect v (List.mem_cons_of_mem _ hv)
    rw [hrest, hnext u rfl, (heffect s List.mem_cons_self).out, List.flatMap_cons (x := s),
      List.append_assoc]

end Pass

namespace Document

variable {d : Document} {o : Options} {a b c l : d.Id} {v x y : d.Visit}

theorem isBlock_of_quote {literal : Text} (hn : d.node c = .blockQuote literal)
    (h : d.isBlock c = true) : ∃ e ∈ d.children c, d.isBlock e = true := by
  rw [isBlock, hn] at h
  simpa using h

theorem exists_breaker (o : Options) (h : d.isBlock c = true) :
    ∃ v ∈ d.visitsFrom Pass.isTable c,
      v.breaksLine o = true ∨ d.kind v.id = .paragraph ∧ v.entering = false := by
  induction c using childInduction with
  | step c ih =>
    have hexit : (d.kind c).isLeaf = false → ⟨c, false⟩ ∈ d.visitsFrom Pass.isTable c := by
      intro hleaf
      rw [visitsFrom_eq, hleaf]
      simp
    have henter : ⟨c, true⟩ ∈ d.visitsFrom Pass.isTable c := by
      rw [visitsFrom_eq]
      exact List.mem_cons_self
    have hb := h
    rw [isBlock] at hb
    rw [kind] at hexit
    cases hn : d.node c with
    | paragraph =>
      rw [hn] at hexit
      exact ⟨_, hexit rfl, Or.inr ⟨congrArg Node.kind hn, rfl⟩⟩
    | heading level literal =>
      rw [hn] at hexit
      exact ⟨_, hexit rfl, Or.inl (by simp [Visit.breaksLine, hn])⟩
    | list ordered =>
      rw [hn] at hexit
      exact ⟨_, hexit rfl, Or.inl (by simp [Visit.breaksLine, hn])⟩
    | codeBlock literal info => exact ⟨_, henter, Or.inl (by simp [Visit.breaksLine, hn])⟩
    | htmlBlock literal => exact ⟨_, henter, Or.inl (by simp [Visit.breaksLine, hn])⟩
    | table =>
      rw [hn] at hb
      exact ⟨_, henter, Or.inl (by simpa [Visit.breaksLine, hn] using hb)⟩
    | blockQuote literal =>
      obtain ⟨e, he, hblock⟩ := isBlock_of_quote hn h
      obtain ⟨v, hv, hbreaks⟩ := ih e he hblock
      have hk : d.kind c = .blockQuote := congrArg Node.kind hn
      refine ⟨v, ?_, hbreaks⟩
      rw [visitsFrom_of_open (by rw [hk]; rfl) (by rw [hk]; rfl)]
      exact List.mem_cons_of_mem _
        (List.mem_append_left _ (List.mem_flatMap.mpr ⟨e, he, hv⟩))
    | _ =>
      rw [hn] at hb
      cases hb

theorem mem_between {first between last : List d.Visit}
    (hnodup : (first ++ x :: (between ++ y :: last)).Nodup)
    (hx : Before (first ++ x :: (between ++ y :: last)) x v)
    (hy : Before (first ++ x :: (between ++ y :: last)) v y) : v ∈ between := by
  have hnot := not_before_of_before hnodup hx
  have hnot' := not_before_of_before hnodup hy
  have hv := hx.subset (List.mem_cons_of_mem _ List.mem_cons_self)
  rw [List.mem_append, List.mem_cons, List.mem_append, List.mem_cons] at hv
  obtain hv | rfl | hv | rfl | hv := hv
  · exact absurd ((List.singleton_sublist.mpr hv).append
      (List.singleton_sublist.mpr List.mem_cons_self)) hnot
  · exact absurd hx hnot
  · exact hv
  · exact absurd hy hnot'
  · have hlast := (List.singleton_sublist.mpr hv).cons_cons y
    exact absurd (((hlast.trans (List.sublist_append_right between _)).cons x).trans
      (List.sublist_append_right first _)) hnot'

theorem mem_between_siblings {before after : List d.Id} {first between last : List d.Visit}
    {skip : Kind → Bool} (hab : d.children l = before ++ a :: b :: after)
    (hvisits : d.visits skip = first ++ ⟨a, true⟩ :: (between ++ ⟨b, true⟩ :: last))
    (hleaf : (d.kind a).isLeaf = false) (hskip : skip (d.kind a) = false)
    (hc : c ∈ d.children a) (hv : v ∈ d.visitsFrom skip c) : v ∈ between := by
  have hpair : [a, b].Sublist (d.children l) := by
    rw [hab]
    exact (List.sublist_append_left [a, b] after).trans (List.sublist_append_right before _)
  have ha : ⟨a, true⟩ ∈ d.visits skip := by
    rw [hvisits]
    simp
  have hb : ⟨b, true⟩ ∈ d.visits skip := by
    rw [hvisits]
    simp
  have hva : v ∈ (d.children a).flatMap (d.visitsFrom skip) := List.mem_flatMap.mpr ⟨c, hc, hv⟩
  have hreached := (mem_visits_iff.mp ha).1
  have hinner := (infix_visits hreached).sublist
  rw [visitsFrom_of_open hleaf hskip] at hinner
  have hone := (List.singleton_sublist.mpr hva).trans
    (List.sublist_append_left _ [(⟨a, false⟩ : d.Visit)])
  have hafter : Before (d.visits skip) ⟨a, true⟩ v := (hone.cons_cons _).trans hinner
  have hmem : v ∈ d.visits skip := hafter.subset (List.mem_cons_of_mem _ List.mem_cons_self)
  have hbefore : Before (d.visits skip) v ⟨b, true⟩ :=
    before_of_siblings hpair hmem hb
      (mem_preorderFrom_of_child hc (mem_preorderFrom_of_mem_visitsFrom hv))
      (mem_preorderFrom_self b)
  have hnodup := nodup_visitsFrom skip d.root
  rw [← visits, hvisits] at hnodup
  rw [hvisits] at hafter hbefore
  exact mem_between hnodup hafter hbefore

end Document

variable {d : Document} {o : Options} {out : String}

theorem mem_rendered_iff_of_mem_steps (h : render d o = .ok out) :
    ∀ s ∈ d.steps o, d.kind s.visit.id = .table →
      (s.visit.id ∈ s.before.rendered ↔ s.visit.entering = false) := by
  refine forall_mem_steps h (I := fun p visits => d.Unguarded p.rendered visits)
    (motive := fun v p _ => d.kind v.id = .table → (v.id ∈ p.rendered ↔ v.entering = false)) ?_
    d.unguarded_visits
  intro p q v visits hguard heffect
  rw [heffect.rendered]
  exact hguard.2

/-- A step of a rendering breaks a line if it does so anywhere, or if it is the end of a paragraph
and the last step that wrote before it did not end with an empty write. -/
theorem newline_mem_step_iff (h : render d o = .ok out) {first last : List (Pass.Step d)}
    {t : Pass.Step d} (hsteps : d.steps o = first ++ t :: last) :
    '\n' ∈ t.before.written o t.visit.id t.visit.entering ↔ t.visit.breaksLine o = true ∨
      t.endsParagraph = true ∧
        ∃ s ∈ (first.filter (·.writes o)).getLast?, s.visit.endsBlank = false := by
  have ht : t ∈ d.steps o := by
    rw [hsteps]
    simp
  rw [Pass.newline_mem_written_iff (mem_rendered_iff_of_mem_steps h t ht),
    lastWrite_pos_iff h hsteps, Pass.Step.endsParagraph]
  simp [and_assoc]

/-- Of some steps that begin with one that writes, the last to write before the end of a paragraph
is one of them. -/
theorem getLast?_writes_append (first : List (Pass.Step d)) {between us vs : List (Pass.Step d)}
    {s u : Pass.Step d} (hsplit : s :: between = us ++ u :: vs) (hwrites : s.writes o = true)
    (hend : s.endsParagraph = false) (hu : u.endsParagraph = true) :
    ∃ x ∈ us, ((first ++ us).filter (·.writes o)).getLast? = some x ∧
      (us.filter (·.writes o)).getLast? = some x := by
  obtain ⟨-, hus⟩ | ⟨us, rfl, -⟩ := List.cons_eq_append_iff.mp hsplit
  · cases hus
    rw [hend] at hu
    cases hu
  · have hne : (s :: us).filter (·.writes o) ≠ [] :=
      List.ne_nil_of_mem (List.mem_filter.mpr ⟨List.mem_cons_self, hwrites⟩)
    have hlast := List.getLast?_eq_some_getLast hne
    refine ⟨_, (List.mem_filter.mp (List.getLast_mem hne)).1, ?_, hlast⟩
    rw [List.filter_append, List.getLast?_append_of_ne_nil _ hne, hlast]

/-- Some steps of a rendering break a line exactly if one of them writes a line break, as long as the
first of them writes something and ends no paragraph. -/
theorem breakLines_iff (h : render d o = .ok out) {first between last : List (Pass.Step d)}
    {s : Pass.Step d} (hsteps : d.steps o = first ++ s :: (between ++ last))
    (hwrites : s.writes o = true) (hend : s.endsParagraph = false) :
    Pass.BreakLines o (s :: between) ↔
      ∃ u ∈ s :: between, '\n' ∈ u.before.written o u.visit.id u.visit.entering := by
  have hbreak : ∀ us u vs, s :: between = us ++ u :: vs →
      ('\n' ∈ u.before.written o u.visit.id u.visit.entering ↔ u.visit.breaksLine o = true ∨
        u.endsParagraph = true ∧
          ∃ x ∈ (us.filter (·.writes o)).getLast?, x.visit.endsBlank = false) := by
    intro us u vs hsplit
    have hplace : d.steps o = (first ++ us) ++ u :: (vs ++ last) := by
      rw [hsteps, ← List.cons_append, hsplit]
      simp
    rw [newline_mem_step_iff h hplace]
    refine or_congr_right (and_congr_right fun hu => ?_)
    obtain ⟨x, -, hglobal, hlocal⟩ :=
      getLast?_writes_append first hsplit hwrites hend hu
    rw [hglobal, hlocal]
  constructor
  · rintro ⟨us, u, vs, hsplit, hu⟩
    refine ⟨u, ?_, (hbreak us u vs hsplit).mpr hu⟩
    rw [hsplit]
    simp
  · rintro ⟨u, hu, hmem⟩
    obtain ⟨us, vs, hsplit⟩ := List.append_of_mem hu
    exact ⟨us, u, vs, hsplit, (hbreak us u vs hsplit).mp hmem⟩

theorem writes_of_item {s : Pass.Step d} {a : d.Id} (hs : s.visit = ⟨a, true⟩)
    (ha : d.kind a = .listItem) :
    s.writes o = true ∧ s.endsParagraph = false ∧ s.visit.endsBlank = false := by
  have hend : s.endsParagraph = false := by
    rw [Pass.Step.endsParagraph, hs, ha]
    rfl
  rw [Document.kind] at ha
  cases hn : d.node a with
  | listItem ordered bullet =>
    refine ⟨?_, hend, ?_⟩
    · rw [Pass.Step.writes, Pass.lastWritten?, hs, hn]
      rfl
    · rw [Document.Visit.endsBlank, hs, hn]
  | _ =>
    rw [hn] at ha
    cases ha

/-- An item is followed by a line break, before the next item of its list, exactly if a step within
it breaks a line. It is so if it holds a block at all, unless some visit in it ends with an empty
write. -/
theorem items_stand_on_lines_iff (d : Document) (o : Options) (hd : d.ItemsOfBlocks) {out : String}
    (h : render d o = .ok out) {l a b : d.Id} {before after : List d.Id} (hl : d.kind l = .list)
    (hab : d.children l = before ++ a :: b :: after) {first between last : List (Pass.Step d)}
    {s t : Pass.Step d} (hsteps : d.steps o = first ++ s :: (between ++ t :: last))
    (hs : s.visit = ⟨a, true⟩) (ht : t.visit = ⟨b, true⟩) :
    ∃ w, t.before.out.toList = s.before.out.toList ++ w ∧
      ('\n' ∈ w ↔ Pass.BreakLines o (s :: between)) ∧
      (d.children a ≠ [] → (∀ u ∈ between, u.visit.endsBlank = false) → '\n' ∈ w) := by
  have ha : d.kind a = .listItem := hd.items_of_list l hl a (by simp [hab])
  obtain ⟨hwrites, hend, hmarker⟩ := writes_of_item (o := o) hs ha
  have hchain := Pass.isChain_history o (d.visits Pass.isTable) {}
  rw [← Document.steps, hsteps] at hchain
  have heffect : ∀ u ∈ s :: between,
      Pass.Effect u.before o u.visit.id u.visit.entering u.after := by
    intro u hu
    refine effect_of_mem_steps h u ?_
    rw [hsteps, ← List.cons_append]
    exact List.mem_append_right _ (List.mem_append_left _ hu)
  have hnewline : '\n' ∈ (s :: between).flatMap
      (fun u => u.before.written o u.visit.id u.visit.entering) ↔
        Pass.BreakLines o (s :: between) := by
    rw [List.mem_flatMap, breakLines_iff h hsteps hwrites hend]
  refine ⟨_, Pass.out_of_isChain hchain.right_of_append heffect, hnewline, ?_⟩
  intro hchildren hblank
  obtain ⟨c, hc⟩ := List.exists_mem_of_ne_nil _ hchildren
  obtain ⟨v, hv, hbreaks⟩ := Document.exists_breaker o (hd.blocks_of_item a ha c hc)
  have hvisits := Pass.map_visit_history o (d.visits Pass.isTable) {}
  rw [← Document.steps, hsteps, List.map_append, List.map_cons, List.map_append, List.map_cons, hs,
    ht] at hvisits
  have hbetween := Document.mem_between_siblings hab hvisits.symm (by rw [ha]; rfl) (by rw [ha]; rfl)
    hc hv
  obtain ⟨u, hu, rfl⟩ := List.mem_map.mp hbetween
  obtain ⟨us, vs, hsplit⟩ := List.append_of_mem (List.mem_cons_of_mem s hu)
  refine hnewline.mpr ⟨us, u, vs, hsplit, hbreaks.imp_right ?_⟩
  rintro ⟨hk, hexit⟩
  have hparagraph : u.endsParagraph = true := by
    rw [Pass.Step.endsParagraph, hk, hexit]
    rfl
  obtain ⟨x, hx, -, hlast⟩ :=
    getLast?_writes_append first hsplit hwrites hend hparagraph
  refine ⟨hparagraph, x, hlast, ?_⟩
  have hmem : x ∈ s :: between := by
    rw [hsplit]
    exact List.mem_append_left _ hx
  obtain rfl | hmem := List.mem_cons.mp hmem
  · exact hmarker
  · exact hblank x hmem

theorem eq_take_append_cons_take_append_cons {α : Type} (n k : Nat) (l : List α)
    (h : n + 1 + k < l.length) :
    l = l.take n ++ l.get ⟨n, by omega⟩ ::
      ((l.drop (n + 1)).take k ++ l.get ⟨n + 1 + k, h⟩ :: l.drop (n + 1 + k + 1)) := by
  have hrest := List.take_append_drop k (l.drop (n + 1))
  rw [List.drop_drop, List.drop_eq_getElem_cons h] at hrest
  have hwhole := List.take_append_drop n l
  rw [List.drop_eq_getElem_cons (by omega), ← hrest] at hwhole
  exact hwhole.symm

/-- The paragraph inside the quote ends the line of the first item. -/
theorem items_stand_on_lines_after_quote :
    let d := Document.ofTrees [.node (.list false) [
      .node (.listItem false '-')
        [.node (.blockQuote ['q']) [.node .paragraph [.node (.text ['a']) []]]],
      .node (.listItem false '-') []]]
    d.ItemsOfBlocks ∧ render d {} = .ok "\\- qa\n\n\\- \n" ∧
    ∃ first s between t last w, d.steps {} = first ++ s :: (between ++ t :: last) ∧
      s.visit = ⟨⟨2, by decide⟩, true⟩ ∧ t.visit = ⟨⟨6, by decide⟩, true⟩ ∧
      t.before.out.toList = s.before.out.toList ++ w ∧ '\n' ∈ w ∧
      Pass.BreakLines {} (s :: between) := by
  intro d
  have hd : d.ItemsOfBlocks := ⟨by decide +kernel, by decide +kernel, by decide +kernel⟩
  have h : render d {} = .ok "\\- qa\n\n\\- \n" := by decide +kernel
  have hsteps := eq_take_append_cons_take_append_cons 2 6 (d.steps {}) (by decide +kernel)
  have hs : ((d.steps {}).get ⟨2, by decide +kernel⟩).visit = ⟨⟨2, by decide⟩, true⟩ := by
    decide +kernel
  have ht : ((d.steps {}).get ⟨9, by decide +kernel⟩).visit = ⟨⟨6, by decide⟩, true⟩ := by
    decide +kernel
  have hl : d.kind ⟨1, by decide⟩ = .list := by decide +kernel
  have hab : d.children ⟨1, by decide⟩ = [] ++ ⟨2, by decide⟩ :: ⟨6, by decide⟩ :: [] := by
    decide +kernel
  have hchildren : d.children ⟨2, by decide⟩ ≠ [] := by decide +kernel
  have hblank : ∀ u ∈ ((d.steps {}).drop 3).take 6, u.visit.endsBlank = false := by
    decide +kernel
  obtain ⟨w, hw, hnewline, hblock⟩ := items_stand_on_lines_iff d {} hd h hl hab hsteps hs ht
  have hmem := hblock hchildren hblank
  exact ⟨hd, h, _, _, _, _, _, w, hsteps, hs, ht, hw, hmem, hnewline.mp hmem⟩

/-- An item without content has no line of its own: the item after it goes on where it ends. -/
theorem items_share_line_without_content :
    let d := Document.ofTrees [.node (.list false) [.node (.listItem false '-') [],
      .node (.listItem false '-') [.node .paragraph [.node (.text ['a']) []]]]]
    d.ItemsOfBlocks ∧ render d {} = .ok "\\- \\- a\n\n" ∧
    d.kind ⟨1, by decide⟩ = .list ∧
    d.children ⟨1, by decide⟩ = [⟨2, by decide⟩, ⟨3, by decide⟩] ∧
    ∃ first s between t last, d.steps {} = first ++ s :: (between ++ t :: last) ∧
      s.visit = ⟨⟨2, by decide⟩, true⟩ ∧ t.visit = ⟨⟨3, by decide⟩, true⟩ ∧
      ∀ w, t.before.out.toList = s.before.out.toList ++ w → '\n' ∉ w := by
  intro d
  have hsteps := eq_take_append_cons_take_append_cons 2 1 (d.steps {}) (by decide +kernel)
  refine ⟨⟨by decide +kernel, by decide +kernel, by decide +kernel⟩, by decide +kernel,
    by decide +kernel, by decide +kernel, _, _, _, _, _, hsteps, by decide +kernel,
    by decide +kernel, ?_⟩
  intro w hw
  have hmarker : ((d.steps {}).get ⟨4, by decide +kernel⟩).before.out.toList =
      ((d.steps {}).get ⟨2, by decide +kernel⟩).before.out.toList ++ ['\\', '-', ' '] := by
    decide +kernel
  have hw' := hmarker.symm.trans hw
  rw [List.append_cancel_left_eq] at hw'
  rw [← hw']
  decide

end ChatMarkup
