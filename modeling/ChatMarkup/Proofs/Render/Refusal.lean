import ChatMarkup.Proofs.Document.Traversal
import ChatMarkup.Proofs.Render.Visits
import ChatMarkup.Document.Tree

namespace ChatMarkup
namespace Document

/-- Whether a rendering comes to a node and refuses it: it has a refused kind, and no table and no
leaf stands above it. -/
def isReported (d : Document) (id : d.Id) : Bool :=
  d.isReached Pass.isTable id && (d.kind id).isRefused

variable {d : Document}

theorem find?_visitsFrom (skip : Kind → Bool) (holds : d.Id → Bool) (id : d.Id) :
    ((d.visitsFrom skip id).find? (holds ·.id)).map Visit.id =
      ((d.visitsFrom skip id).filterMap Visit.entered?).find? holds := by
  induction id using childInduction with
  | step id ih =>
    have hchildren : ∀ l : List d.Id, (∀ c ∈ l, c ∈ d.children id) →
        ((l.flatMap (d.visitsFrom skip)).find? (holds ·.id)).map Visit.id =
          ((l.flatMap (d.visitsFrom skip)).filterMap Visit.entered?).find? holds := by
      intro l hl
      induction l with
      | nil => rfl
      | cons c l ihl =>
        rw [List.flatMap_cons, List.find?_append, List.filterMap_append, List.find?_append,
          Option.map_or, ih c (hl c List.mem_cons_self),
          ihl fun x hx => hl x (List.mem_cons_of_mem _ hx)]
    rw [visitsFrom_eq, List.filterMap_cons_some (b := id) (by rfl), List.find?_cons,
      List.find?_cons]
    cases hid : holds id with
    | true => rfl
    | false =>
      dsimp only
      split_ifs
      · rfl
      · simp [hid, Visit.entered?]
      · rw [List.find?_append, List.filterMap_append, List.find?_append, Option.map_or,
          hchildren _ fun _ hc => hc]
        simp [hid, Visit.entered?]

theorem find?_visits_isRefused (d : Document) :
    ((d.visits Pass.isTable).find? fun v => (d.kind v.id).isRefused).map Visit.id =
      d.preorder.find? d.isReported := by
  rw [visits, find?_visitsFrom Pass.isTable fun id => (d.kind id).isRefused,
    entered_visitsFrom Pass.isTable (isReached_root _), List.find?_filter, preorder]
  apply congrArg (List.find? · _)
  funext id
  simp [isReported]

end Document

namespace Pass

variable {d : Document} {o : Options} {p q : Pass d}

/-- Only tables are noted as rendered, and the output holds what each of them was rendered as. -/
structure Settled (o : Options) (p : Pass d) : Prop where
  tables : ∀ t ∈ p.rendered, d.kind t = .table
  shown : ∀ t ∈ p.rendered, d.renderTable t o.table <:+: p.out.toList

theorem settled_new (o : Options) : ({} : Pass d).Settled o := by
  constructor
  all_goals
    intro t ht
    cases ht

theorem Settled.of_wrote {t : Text} (hp : p.Settled o) (h : Wrote p t q) : q.Settled o := by
  constructor
  · rw [h.rendered]
    exact hp.tables
  · intro id hid
    rw [h.rendered] at hid
    rw [h.out]
    exact (hp.shown id hid).trans (List.prefix_append _ _).isInfix

theorem Settled.render (hp : p.Settled o) {id : d.Id} (hk : d.kind id = .table) :
    ({ p with rendered := id :: p.rendered }.write (d.renderTable id o.table)).Settled o := by
  constructor
  · intro t ht
    obtain rfl | ht := List.mem_cons.mp ht
    · exact hk
    · exact hp.tables t ht
  · intro t ht
    rw [out_write]
    obtain rfl | ht := List.mem_cons.mp ht
    · exact (List.suffix_append _ _).isInfix
    · exact (hp.shown t ht).trans (List.prefix_append _ _).isInfix

theorem insideRendered_of_isReached {id : d.Id} (hp : p.Settled o)
    (h : d.isReached isTable id = true) : p.insideRendered id = false := by
  rw [insideRendered, List.any_eq_false]
  intro a ha hm
  have hk := hp.tables a (List.contains_iff_mem.mp hm)
  have hclosed : ((d.kind a).isLeaf || isTable (d.kind a)) = true := by rw [hk]; rfl
  rw [Document.isReached_of_mem_ancestors ha hclosed] at h
  cases h

/-- One visit to a node that is reached: it fails exactly at a refused kind, and after a visit to a
table that table is rendered. -/
theorem runVisit_of_isReached {v : d.Visit} (hp : p.Settled o)
    (h : d.isReached isTable v.id = true) :
    ((d.kind v.id).isRefused = true ∧
      Document.runVisit (visit o) p v = .error (.unsupported (d.kind v.id))) ∨
    ((d.kind v.id).isRefused = false ∧
      ∃ q, Document.runVisit (visit o) p v = .ok q ∧ q.Settled o ∧ p.rendered ⊆ q.rendered ∧
        (d.kind v.id = .table → v.id ∈ q.rendered)) := by
  have hin := insideRendered_of_isReached hp h
  rcases visit_cases o v.id v.entering p with ⟨hin', -⟩ | ⟨-, hk, hm, hv⟩ | ⟨-, hk, -, hv⟩ |
    ⟨-, hr, hv⟩ | ⟨-, hk, hr, q, hv, hq⟩
  · rw [hin] at hin'
    cases hin'
  · exact Or.inr ⟨by rw [hk]; rfl, p, runVisit_of_ok hv, hp, fun _ => id, fun _ => hm⟩
  · exact Or.inr ⟨by rw [hk]; rfl, _, runVisit_of_ok hv, hp.render hk,
      fun _ ht => List.mem_cons_of_mem _ ht, fun _ => List.mem_cons_self⟩
  · refine Or.inl ⟨hr, ?_⟩
    rw [Document.runVisit, hv]
    rfl
  · refine Or.inr ⟨hr, q, runVisit_of_ok hv, hp.of_wrote hq, ?_, fun e => absurd e hk⟩
    rw [hq.rendered]
    exact fun _ => id

/-- A run of visits to nodes that are reached fails at the first refused kind and nowhere else, and
it renders every table that it visits. -/
theorem run_of_isReached {l : List d.Visit} (hp : p.Settled o)
    (hl : ∀ v ∈ l, d.isReached isTable v.id = true) :
    match l.find? fun v => (d.kind v.id).isRefused with
    | some v => l.foldlM (Document.runVisit (visit o)) p = .error (.unsupported (d.kind v.id))
    | none => ∃ q, l.foldlM (Document.runVisit (visit o)) p = .ok q ∧ q.Settled o ∧
        p.rendered ⊆ q.rendered ∧ ∀ v ∈ l, d.kind v.id = .table → v.id ∈ q.rendered := by
  induction l generalizing p with
  | nil => exact ⟨p, rfl, hp, fun _ => id, fun _ h => by cases h⟩
  | cons w l ih =>
    have hrest : ∀ v ∈ l, d.isReached isTable v.id = true :=
      fun v h => hl v (List.mem_cons_of_mem _ h)
    rw [List.foldlM_cons, List.find?_cons]
    rcases runVisit_of_isReached hp (hl w List.mem_cons_self) with
      ⟨hr, hw⟩ | ⟨hr, q, hw, hq, hpq, htable⟩
    · rw [hr, hw]
      rfl
    · rw [hr, hw]
      have hrun := ih hq hrest
      dsimp only
      cases hfind : l.find? fun v => (d.kind v.id).isRefused with
      | some v =>
        rw [hfind] at hrun
        exact hrun
      | none =>
        rw [hfind] at hrun
        obtain ⟨r, hr, hsettled, hqr, hall⟩ := hrun
        refine ⟨r, hr, hsettled, List.Subset.trans hpq hqr, ?_⟩
        intro v hv hk
        obtain rfl | hv := List.mem_cons.mp hv
        · exact hqr (htable hk)
        · exact hall v hv hk

end Pass

variable {d : Document}

theorem isReached_of_mem_visits {v : d.Visit} (h : v ∈ d.visits Pass.isTable) :
    d.isReached Pass.isTable v.id = true :=
  (Document.mem_visits_iff.mp h).1

theorem exists_visit_of_isReached {id : d.Id} (h : d.isReached Pass.isTable id = true) :
    ∃ v ∈ d.visits Pass.isTable, v.id = id :=
  ⟨⟨id, true⟩, Document.mem_visits_iff.mpr ⟨h, Or.inl rfl⟩, rfl⟩

/-- A rendering either fails at the first refused node that it comes to, or holds what each table
that it comes to is rendered as. -/
theorem render_cases (d : Document) (o : Options) :
    match d.preorder.find? d.isReported with
    | some id => render d o = .error (.unsupported (d.kind id))
    | none => ∃ out, render d o = .ok out ∧
        ∀ t, d.kind t = .table → d.isReached Pass.isTable t = true →
          d.renderTable t o.table <:+: out.toList := by
  have hrun := Pass.run_of_isReached (Pass.settled_new (d := d) o)
    fun _ => isReached_of_mem_visits
  rw [← d.find?_visits_isRefused, Pass.render_eq]
  cases hv : (d.visits Pass.isTable).find? fun v => (d.kind v.id).isRefused with
  | some v =>
    rw [hv] at hrun
    rw [hrun]
    rfl
  | none =>
    rw [hv] at hrun
    obtain ⟨q, hq, hsettled, -, htables⟩ := hrun
    rw [hq]
    refine ⟨q.out, rfl, ?_⟩
    intro t hk ht
    obtain ⟨v, hv, rfl⟩ := exists_visit_of_isReached ht
    exact hsettled.shown _ (htables v hv hk)

theorem exists_find?_isReported {id : d.Id} (h : d.isReported id = true) :
    ∃ first, d.preorder.find? d.isReported = some first := by
  have hsome : (d.preorder.find? d.isReported).isSome = true :=
    List.find?_isSome.mpr ⟨id, d.mem_preorder id, h⟩
  exact Option.isSome_iff_exists.mp hsome

theorem render_of_find?_eq_some {id : d.Id} (h : d.preorder.find? d.isReported = some id)
    (o : Options) : render d o = .error (.unsupported (d.kind id)) := by
  have hcases := render_cases d o
  rw [h] at hcases
  exact hcases

theorem render_of_forall_not_isReported (h : ∀ id, d.isReported id = false) (o : Options) :
    ∃ out, render d o = .ok out ∧ ∀ t, d.kind t = .table →
      d.isReached Pass.isTable t = true → d.renderTable t o.table <:+: out.toList := by
  have hnone : d.preorder.find? d.isReported = none := by
    rw [List.find?_eq_none]
    intro id _
    rw [h id]
    exact Bool.false_ne_true
  have hcases := render_cases d o
  rw [hnone] at hcases
  exact hcases

theorem render_eq_error_iff {o : Options} {e : RenderError} :
    render d o = .error e ↔
      ∃ first, d.preorder.find? d.isReported = some first ∧ e = .unsupported (d.kind first) := by
  constructor
  · intro he
    by_cases h : ∀ id, d.isReported id = false
    · obtain ⟨out, hout, -⟩ := render_of_forall_not_isReported h o
      rw [he] at hout
      cases hout
    · rw [not_forall] at h
      obtain ⟨id, hid⟩ := h
      obtain ⟨first, hfirst⟩ := exists_find?_isReported ((Bool.not_eq_false _).mp hid)
      rw [render_of_find?_eq_some hfirst o] at he
      cases he
      exact ⟨first, hfirst, rfl⟩
  · intro hex
    obtain ⟨first, hfirst, rfl⟩ := hex
    exact render_of_find?_eq_some hfirst o

/-- A rendering fails at the first refused node that stands below no table and no leaf, a document
without refused nodes can be rendered, and the options have no part in it. -/
theorem render_stops_at_first_refused (d : Document) :
    (∀ id, d.isReported id = true →
      ∃ first, d.preorder.find? d.isReported = some first ∧
        ∀ o, render d o = .error (.unsupported (d.kind first))) ∧
    ((∀ id, (d.kind id).isRefused = false) → ∀ o, ∃ out, render d o = .ok out) ∧
    ∀ o o' e, render d o = .error e → render d o' = .error e := by
  refine ⟨?_, ?_, ?_⟩
  · intro id hid
    obtain ⟨first, hfirst⟩ := exists_find?_isReported hid
    exact ⟨first, hfirst, render_of_find?_eq_some hfirst⟩
  · intro h o
    have hnone : ∀ id, d.isReported id = false := by
      intro id
      rw [Document.isReported, h id, Bool.and_false]
    obtain ⟨out, hout, -⟩ := render_of_forall_not_isReported hnone o
    exact ⟨out, hout⟩
  · intro o o' e he
    rw [render_eq_error_iff] at he ⊢
    exact he

/-- Document order decides, not the age of the nodes: here the oldest refused node is not the
first. -/
theorem render_stops_at_younger_first :
    let d := ((Document.new.append ⟨0, by decide⟩ .emph).append ⟨0, by decide⟩ .citation).append
      ⟨1, by decide⟩ .index
    d.isReported ⟨2, by decide⟩ = true ∧ d.preorder.find? d.isReported = some ⟨3, by decide⟩ ∧
      ∀ o, render d o = .error (.unsupported .index) := by
  intro d
  have hid : d.isReported ⟨2, by decide⟩ = true := by decide +kernel
  have hfirst : d.preorder.find? d.isReported = some ⟨3, by decide⟩ := by decide +kernel
  obtain ⟨first, hsome, hrender⟩ := (render_stops_at_first_refused d).1 _ hid
  rw [hfirst, Option.some.injEq] at hsome
  subst hsome
  exact ⟨hid, hfirst, hrender⟩

/-- A refused node inside a cell of a table that the rendering comes to, below nodes whose plain
text is that of their children. -/
def Document.RefusedInCell (d : Document) : Prop :=
  ∃ table, d.kind table = .table ∧ d.isReached Pass.isTable table = true ∧
    ∃ row ∈ (d.collectRows table).1, ∃ cell ∈ d.children row, d.kind cell = .tableCell ∧
      ∃ id, cell ∈ d.ancestors id ∧ (d.kind id).isRefused = true ∧
        ∀ a ∈ d.ancestors id, cell ∈ d.ancestors a →
          (d.kind a).isLeaf = false ∧ d.kind a ≠ .image

/-- A refused node inside a cell does not stop a rendering by itself: such a document fails exactly
if it also has a refused node outside of tables. Without one the output holds every table that the
rendering comes to, each cell as the plain text of what stands in it. -/
theorem refuses_inside_cells_iff (d : Document) (o : Options) :
    ((d.RefusedInCell → ∃ k, render d o = .error (.unsupported k)) ↔
      (d.RefusedInCell → ∃ id, d.isReported id = true)) ∧
    ((∀ id, d.isReported id = false) →
      ∃ out, render d o = .ok out ∧ ∀ t, d.kind t = .table →
        d.isReached Pass.isTable t = true → d.renderTable t o.table <:+: out.toList) := by
  have hiff : (∃ k, render d o = .error (.unsupported k)) ↔ ∃ id, d.isReported id = true := by
    constructor
    · intro hex
      obtain ⟨k, hk⟩ := hex
      obtain ⟨first, hfirst, -⟩ := render_eq_error_iff.mp hk
      exact ⟨first, List.find?_some hfirst⟩
    · intro hex
      obtain ⟨id, hid⟩ := hex
      obtain ⟨first, hfirst⟩ := exists_find?_isReported hid
      exact ⟨_, render_of_find?_eq_some hfirst o⟩
  exact ⟨by rw [hiff], fun h => render_of_forall_not_isReported h o⟩

/-- A table whose only cell holds a superscript is rendered as if the cell held its text. -/
theorem render_superscript_in_cell :
    let d := Document.ofTrees [.node .table [.node .tableRow [.node (.tableCell [])
      [.node .superscript [.node (.text ['2']) []]]]]]
    d.RefusedInCell ∧ render d {} = .ok "```\n| 2   |\n| --- |\n```\n" := by
  intro d
  refine ⟨⟨⟨1, by decide +kernel⟩, ?_⟩, ?_⟩ <;> decide +kernel

end ChatMarkup
