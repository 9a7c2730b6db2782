import ChatMarkup.Proofs.Document.Siblings
import ChatMarkup.Proofs.Effects
import ChatMarkup.Proofs.Render.Calls
import ChatMarkup.Proofs.Render.Effect
import ChatMarkup.Proofs.Render.Refusal

namespace ChatMarkup
namespace Document

variable {d : Document} {rendered : List d.Id} {id : d.Id}

/-- The rendered tables after some visits outside of them. -/
def noteTables (d : Document) (rendered : List d.Id) (visits : List d.Visit) : List d.Id :=
  visits.foldl (fun rendered v => d.noteTable rendered v.id) rendered

/-- Visits of which none lies below a rendered table, and which come to a rendered table exactly
when they leave it. -/
def Unguarded (d : Document) (rendered : List d.Id) : List d.Visit → Prop
  | [] => True
  | v :: visits =>
    (∀ a ∈ d.ancestors v.id, a ∉ rendered) ∧
      (d.kind v.id = .table → (v.id ∈ rendered ↔ v.entering = false)) ∧
      Unguarded d (d.noteTable rendered v.id) visits

theorem noteTables_append (rendered : List d.Id) (l m : List d.Visit) :
    d.noteTables rendered (l ++ m) = d.noteTables (d.noteTables rendered l) m :=
  List.foldl_append

theorem unguarded_append {rendered : List d.Id} {l m : List d.Visit} :
    d.Unguarded rendered (l ++ m) ↔
      d.Unguarded rendered l ∧ d.Unguarded (d.noteTables rendered l) m := by
  induction l generalizing rendered with
  | nil => simp [Unguarded, noteTables]
  | cons v l ih =>
    rw [List.cons_append, Unguarded, ih, Unguarded, and_assoc, and_assoc]
    rfl

theorem unguarded_flatMap {skip : Kind → Bool} {l : List d.Id} (hl : ∀ c ∈ l, c ∈ d.children id)
    (hnodup : l.Nodup)
    (each : ∀ c ∈ l, ∀ rendered : List d.Id, (∀ a ∈ d.ancestors c, a ∉ rendered) →
      (∀ x ∈ d.preorderFrom c, x ∉ rendered) →
      d.Unguarded rendered (d.visitsFrom skip c) ∧
        ∀ t ∈ d.noteTables rendered (d.visitsFrom skip c), t ∈ rendered ∨ t ∈ d.preorderFrom c)
    (rendered : List d.Id) (habove : ∀ a ∈ id :: d.ancestors id, a ∉ rendered)
    (hbelow : ∀ c ∈ l, ∀ x ∈ d.preorderFrom c, x ∉ rendered) :
    d.Unguarded rendered (l.flatMap (d.visitsFrom skip)) ∧
      ∀ t ∈ d.noteTables rendered (l.flatMap (d.visitsFrom skip)),
        t ∈ rendered ∨ ∃ c ∈ l, t ∈ d.preorderFrom c := by
  induction l generalizing rendered with
  | nil => exact ⟨trivial, fun t ht => Or.inl ht⟩
  | cons c l ih =>
    have hc := hl c List.mem_cons_self
    have hanc := ancestors_of_mem_children hc
    obtain ⟨hfirst, hnew⟩ := each c List.mem_cons_self rendered (hanc ▸ habove)
      (hbelow c List.mem_cons_self)
    -- What is rendered within one child lies neither above the next child nor below it.
    have habove' : ∀ a ∈ id :: d.ancestors id,
        a ∉ d.noteTables rendered (d.visitsFrom skip c) := by
      intro a ha hm
      obtain hm | hm := hnew a hm
      · exact habove a ha hm
      · have hac : a ∈ d.ancestors c := hanc ▸ ha
        have hlt : a.val < c.val := val_lt_of_mem_ancestors hac
        have hle := le_of_mem_preorderFrom hm
        omega
    have hbelow' : ∀ e ∈ l, ∀ x ∈ d.preorderFrom e,
        x ∉ d.noteTables rendered (d.visitsFrom skip c) := by
      intro e he x hx hm
      obtain hm | hm := hnew x hm
      · exact hbelow e (List.mem_cons_of_mem _ he) x hx hm
      · have hec := eq_of_mem_preorderFrom (hl e (List.mem_cons_of_mem _ he)) hc hx hm
        exact (List.nodup_cons.mp hnodup).1 (hec ▸ he)
    obtain ⟨hrest, hnewRest⟩ := ih (fun e he => hl e (List.mem_cons_of_mem _ he))
      (List.nodup_cons.mp hnodup).2 (fun e he => each e (List.mem_cons_of_mem _ he)) _ habove'
      hbelow'
    rw [List.flatMap_cons]
    refine ⟨unguarded_append.mpr ⟨hfirst, hrest⟩, ?_⟩
    intro t ht
    rw [noteTables_append] at ht
    obtain ht | ⟨e, he, hte⟩ := hnewRest t ht
    · obtain ht | ht := hnew t ht
      · exact Or.inl ht
      · exact Or.inr ⟨c, List.mem_cons_self, ht⟩
    · exact Or.inr ⟨e, List.mem_cons_of_mem _ he, hte⟩

theorem unguarded_table (hk : d.kind id = .table) (hid : id ∉ rendered)
    (habove : ∀ a ∈ d.ancestors id, a ∉ rendered) :
    d.Unguarded rendered [⟨id, true⟩, ⟨id, false⟩] ∧
      d.noteTables rendered [⟨id, true⟩, ⟨id, false⟩] = id :: rendered := by
  have hnote : d.noteTable rendered id = id :: rendered := noteTable_of_not_mem hk hid
  have hnote' : d.noteTable (id :: rendered) id = id :: rendered :=
    noteTable_of_mem List.mem_cons_self
  have habove' : ∀ a ∈ d.ancestors id, a ∉ id :: rendered := by
    intro a ha hm
    obtain rfl | hm := List.mem_cons.mp hm
    · exact absurd (val_lt_of_mem_ancestors ha) (Nat.lt_irrefl _)
    · exact habove a ha hm
  constructor
  · refine ⟨habove, fun _ => by simp [hid], ?_⟩
    change d.Unguarded (d.noteTable rendered id) [⟨id, false⟩]
    rw [hnote]
    exact ⟨habove', fun _ => by simp, trivial⟩
  · change d.noteTable (d.noteTable rendered id) id = id :: rendered
    rw [hnote, hnote']

theorem unguarded_visitsFrom (rendered : List d.Id) (habove : ∀ a ∈ d.ancestors id, a ∉ rendered)
    (hbelow : ∀ x ∈ d.preorderFrom id, x ∉ rendered) :
    d.Unguarded rendered (d.visitsFrom Pass.isTable id) ∧
      ∀ t ∈ d.noteTables rendered (d.visitsFrom Pass.isTable id),
        t ∈ rendered ∨ t ∈ d.preorderFrom id := by
  induction id using childInduction generalizing rendered with
  | step id ih =>
    have hid : id ∉ rendered := hbelow id (mem_preorderFrom_self id)
    rw [visitsFrom_eq]
    by_cases hk : d.kind id = .table
    · have hskip : Pass.isTable (d.kind id) = true := by rw [hk]; rfl
      have hleaf : (d.kind id).isLeaf = false := by rw [hk]; rfl
      obtain ⟨hguard, hnote⟩ := unguarded_table hk hid habove
      rw [hskip, hleaf]
      refine ⟨hguard, ?_⟩
      intro t ht
      change t ∈ d.noteTables rendered [⟨id, true⟩, ⟨id, false⟩] at ht
      rw [hnote] at ht
      obtain rfl | ht := List.mem_cons.mp ht
      · exact Or.inr (mem_preorderFrom_self t)
      · exact Or.inl ht
    · have hskip : Pass.isTable (d.kind id) = false := by simpa [Pass.isTable] using hk
      have hnote : d.noteTable rendered id = rendered := noteTable_of_ne hk
      rw [hskip]
      cases hleaf : (d.kind id).isLeaf with
      | true =>
        refine ⟨⟨habove, fun e => absurd e hk, trivial⟩, ?_⟩
        intro t ht
        change t ∈ d.noteTable rendered id at ht
        rw [hnote] at ht
        exact Or.inl ht
      | false =>
        have habove' : ∀ a ∈ id :: d.ancestors id, a ∉ rendered := by
          intro a ha
          obtain rfl | ha := List.mem_cons.mp ha
          · exact hid
          · exact habove a ha
        obtain ⟨hchildren, hnew⟩ := unguarded_flatMap (fun _ hc => hc) (d.nodup_children id)
          (fun c hc r => ih c hc r) rendered habove'
          fun c hc x hx => hbelow x (mem_preorderFrom_of_child hc hx)
        have hexit : ∀ a ∈ d.ancestors id,
            a ∉ d.noteTables rendered ((d.children id).flatMap (d.visitsFrom Pass.isTable)) := by
          intro a ha hm
          obtain hm | ⟨c, hc, hm⟩ := hnew a hm
          · exact habove a ha hm
          · have hlt := val_lt_of_mem_ancestors (mem_ancestors_of_child hc hm)
            have hlt' := val_lt_of_mem_ancestors ha
            omega
        refine ⟨⟨habove, fun e => absurd e hk, ?_⟩, ?_⟩
        · change d.Unguarded (d.noteTable rendered id) (_ ++ [⟨id, false⟩])
          rw [hnote]
          exact unguarded_append.mpr ⟨hchildren, hexit, fun e => absurd e hk, trivial⟩
        · intro t ht
          change t ∈ d.noteTables (d.noteTable rendered id) (_ ++ [⟨id, false⟩]) at ht
          rw [hnote, noteTables_append] at ht
          change t ∈ d.noteTable _ id at ht
          rw [noteTable_of_ne hk] at ht
          obtain ht | ⟨c, hc, ht⟩ := hnew t ht
          · exact Or.inl ht
          · exact Or.inr (mem_preorderFrom_of_child hc ht)

/-- No visit of a walk lies below a rendered table. -/
theorem unguarded_visits (d : Document) : d.Unguarded [] (d.visits Pass.isTable) :=
  (unguarded_visitsFrom [] (fun _ _ => List.not_mem_nil) fun _ _ => List.not_mem_nil).1

end Document

namespace Pass

variable {d : Document} {o : Options} {p q : Pass d} {v : d.Visit} {visits : List d.Visit}

theorem visit_of_runVisit (h : Document.runVisit (visit o) p v = .ok q) :
    ∃ status, visit o v.id v.entering p = .ok (q, status) := by
  rw [Document.runVisit] at h
  cases hv : visit o v.id v.entering p with
  | error e =>
    rw [hv] at h
    cases h
  | ok r =>
    rw [hv] at h
    cases h
    exact ⟨r.2, rfl⟩

theorem exists_visit_ok (o : Options) (hr : (d.kind v.id).isRefused = false) (entering : Bool)
    (p : Pass d) : ∃ q status, visit o v.id entering p = .ok (q, status) := by
  rcases visit_cases o v.id entering p with ⟨-, hv⟩ | ⟨-, -, -, hv⟩ | ⟨-, -, -, hv⟩ |
    ⟨-, hr', -⟩ | ⟨-, -, -, q, hv, -⟩
  · exact ⟨_, _, hv⟩
  · exact ⟨_, _, hv⟩
  · exact ⟨_, _, hv⟩
  · rw [hr] at hr'
    cases hr'
  · exact ⟨_, _, hv⟩

/-- One call of a walk: unless it refuses its node it has the effect of its visit, and the guard
lets the visits after it pass. -/
theorem step_of_unguarded (hp : d.Unguarded p.rendered (v :: visits))
    (hr : (d.kind v.id).isRefused = false) :
    ∃ q, Document.runVisit (visit o) p v = .ok q ∧ (step o p v).after = q ∧
      Effect p o v.id v.entering q ∧ d.Unguarded q.rendered visits := by
  obtain ⟨habove, -, hrest⟩ := hp
  have hin : p.insideRendered v.id = false := by
    rw [insideRendered, List.any_eq_false]
    intro a ha hm
    exact habove a ha (List.contains_iff_mem.mp hm)
  obtain ⟨q, status, hv⟩ := exists_visit_ok o hr v.entering p
  have heffect := effect_of_visit hin hv
  refine ⟨q, runVisit_of_ok hv, ?_, heffect, ?_⟩
  · rw [step, run_call, hv]
  · rw [heffect.rendered]
    exact hrest

theorem after_of_runVisit (h : Document.runVisit (visit o) p v = .ok q) :
    (∃ status, (step o p v).answer = .ok status) ∧ (step o p v).after = q := by
  obtain ⟨status, hv⟩ := visit_of_runVisit h
  rw [step, run_call, hv]
  exact ⟨⟨status, rfl⟩, rfl⟩

theorem history_of_run (h : visits.foldlM (Document.runVisit (visit o)) p = .ok q) :
    (∀ s ∈ history o p visits, ∃ status, s.answer = .ok status) ∧
      ((history o p visits).getLast?.map Step.after).getD p = q := by
  induction visits generalizing p with
  | nil =>
    cases h
    exact ⟨List.forall_mem_nil _, rfl⟩
  | cons v visits ih =>
    rw [List.foldlM_cons] at h
    obtain ⟨r, hv, h⟩ := exists_of_bind_eq_ok h
    obtain ⟨hanswer, hafter⟩ := after_of_runVisit hv
    obtain ⟨hanswers, hlast⟩ := ih h
    rw [history, hafter]
    refine ⟨List.forall_mem_cons.mpr ⟨hanswer, hanswers⟩, ?_⟩
    rw [List.getLast?_cons, Option.map_some, Option.getD_some, ← hlast]
    cases (history o r visits).getLast? with
    | none => exact hafter
    | some s => rfl

end Pass

def Document.steps (d : Document) (o : Options) : List (Pass.Step d) :=
  Pass.history o {} (d.visits Pass.isTable)

variable {d : Document} {o : Options} {out : String}

/-- In a rendering that succeeds so does each step, and the last one leaves the whole output. -/
theorem steps_of_render (h : render d o = .ok out) :
    (∀ s ∈ d.steps o, ∃ status, s.answer = .ok status) ∧
      ∀ s ∈ (d.steps o).getLast?, s.after.out = out := by
  rw [Pass.render_eq] at h
  cases hrun : (d.visits Pass.isTable).foldlM (Document.runVisit (Pass.visit o)) {} with
  | error e =>
    rw [hrun] at h
    cases h
  | ok q =>
    rw [hrun] at h
    cases h
    obtain ⟨hanswers, hlast⟩ := Pass.history_of_run hrun
    refine ⟨hanswers, ?_⟩
    intro s hs
    rw [← hlast, ← Document.steps, hs]
    rfl

theorem not_isRefused_of_render (h : render d o = .ok out) :
    ∀ v ∈ d.visits Pass.isTable, (d.kind v.id).isRefused = false := by
  intro v hv
  by_contra hr
  have hreported : d.isReported v.id = true := by
    rw [Document.isReported, isReached_of_mem_visits hv]
    simpa using hr
  obtain ⟨first, hfirst⟩ := exists_find?_isReported hreported
  rw [render_of_find?_eq_some hfirst] at h
  cases h

/-- What holds of each step of a rendering that succeeds, as long as the effect of each keeps what
the next one needs. -/
theorem forall_mem_steps (h : render d o = .ok out) {I : Pass d → List d.Visit → Prop}
    {motive : d.Visit → Pass d → Pass d → Prop}
    (hstep : ∀ p q v visits, I p (v :: visits) → Pass.Effect p o v.id v.entering q →
      motive v p q ∧ I q visits) (hstart : I {} (d.visits Pass.isTable)) :
    ∀ s ∈ d.steps o, motive s.visit s.before s.after := by
  have hall : d.Unguarded ({} : Pass d).rendered (d.visits Pass.isTable) ∧
      (∀ v ∈ d.visits Pass.isTable, (d.kind v.id).isRefused = false) ∧
      I {} (d.visits Pass.isTable) :=
    ⟨d.unguarded_visits, not_isRefused_of_render h, hstart⟩
  refine Pass.forall_mem_history (I := fun p visits => d.Unguarded p.rendered visits ∧
    (∀ v ∈ visits, (d.kind v.id).isRefused = false) ∧ I p visits) ?_ _ hall
  intro p v visits hp
  obtain ⟨hguard, hrefused, hp⟩ := hp
  obtain ⟨q, -, rfl, heffect, hrest⟩ :=
    Pass.step_of_unguarded (o := o) hguard (hrefused v List.mem_cons_self)
  obtain ⟨hmotive, hq⟩ := hstep p _ v visits hp heffect
  exact ⟨hmotive, hrest, fun w hw => hrefused w (List.mem_cons_of_mem _ hw), hq⟩

theorem effect_of_mem_steps (h : render d o = .ok out) :
    ∀ s ∈ d.steps o, Pass.Effect s.before o s.visit.id s.visit.entering s.after :=
  forall_mem_steps h (I := fun _ _ => True)
    (motive := fun v p q => Pass.Effect p o v.id v.entering q)
    (fun _ _ _ _ _ heffect => ⟨heffect, trivial⟩) trivial

end ChatMarkup
