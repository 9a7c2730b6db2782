import ChatMarkup.Proofs.Render.Visits
import ChatMarkup.Document.Tree
import Mathlib.Data.List.Chain

namespace ChatMarkup
namespace Pass

variable {d : Document} {o : Options} {p : Pass d} {v : d.Visit}

/-- A call does what the visit of a walk does, and where it fails it has changed nothing. -/
theorem run_call (o : Options) (id : d.Id) (entering : Bool) (p : Pass d) :
    (call o id entering).run.run p =
      match visit o id entering p with
      | .ok (q, status) => (.ok status, q)
      | .error e => (.error e, p) := by
  cases hin : p.insideRendered id with
  | true =>
    rw [visit_of_insideRendered hin, run_call_eq, if_pos hin]
  | false =>
    rw [visit_eq_outcome_mark hin, run_call_eq, if_neg (by simp [hin])]
    unfold mark
    cases hn : d.node id with
    | listItem ordered bullet => cases entering <;> rfl
    | blockQuote literal => cases entering <;> rfl
    | _ => rfl

/-- A call that has been made: the pass before it, the answer, and the pass after it. -/
structure Step (d : Document) where
  visit : d.Visit
  before : Pass d
  answer : Except RenderError Status
  after : Pass d

def step (o : Options) (p : Pass d) (v : d.Visit) : Step d :=
  let result := (call o v.id v.entering).run.run p
  ⟨v, p, result.1, result.2⟩

def history (o : Options) (p : Pass d) : List d.Visit → List (Step d)
  | [] => []
  | v :: calls => step o p v :: history o (step o p v).after calls

def Step.appends (s : Step d) : Bool := s.after.out != s.before.out

/-- Whether a call has rendered a table: it was made on the table and asks to skip the children. -/
def Step.Renders (s : Step d) (table : d.Id) : Prop :=
  s.visit.id = table ∧ s.answer = .ok .skipChildren

/-- Whether a node is a table or stands somewhere below it. -/
def IsWithin (table id : d.Id) : Prop := id = table ∨ table ∈ d.ancestors id

instance (table id : d.Id) : Decidable (IsWithin table id) :=
  inferInstanceAs (Decidable (id = table ∨ table ∈ d.ancestors id))

theorem map_visit_history (o : Options) (calls : List d.Visit) (p : Pass d) :
    (history o p calls).map Step.visit = calls := by
  induction calls generalizing p with
  | nil => rfl
  | cons v calls ih => rw [history, List.map_cons, ih, step]

/-- What a call can do: nothing within a rendered table, a table that it renders, a refusal, or a
write of the other kinds. -/
theorem step_cases (o : Options) (p : Pass d) (v : d.Visit) :
    ((p.insideRendered v.id = true ∨ d.kind v.id = .table ∧ v.id ∈ p.rendered) ∧
      (step o p v).answer = .ok .goToNext ∧ (step o p v).after = p) ∨
    (d.kind v.id = .table ∧ p.insideRendered v.id = false ∧ v.id ∉ p.rendered ∧
      (step o p v).answer = .ok .skipChildren ∧
      (step o p v).after =
        { p with rendered := v.id :: p.rendered }.write (d.renderTable v.id o.table)) ∨
    ((d.kind v.id).isRefused = true ∧ p.insideRendered v.id = false ∧
      (step o p v).answer = .error (.unsupported (d.kind v.id)) ∧ (step o p v).after = p) ∨
    (d.kind v.id ≠ .table ∧ p.insideRendered v.id = false ∧
      (step o p v).answer = .ok .goToNext ∧
      Wrote p (p.piece o v.id v.entering) (step o p v).after) := by
  simp only [step, run_call]
  rcases visit_cases o v.id v.entering p with ⟨hin, hv⟩ | ⟨-, hk, hm, hv⟩ | ⟨hin, hk, hm, hv⟩ |
    ⟨hin, hr, hv⟩ | ⟨hin, hk, -, q, hv, hq⟩ <;> rw [hv]
  · exact Or.inl ⟨Or.inl hin, rfl, rfl⟩
  · exact Or.inl ⟨Or.inr ⟨hk, hm⟩, rfl, rfl⟩
  · exact Or.inr (Or.inl ⟨hk, hin, hm, rfl, rfl⟩)
  · exact Or.inr (Or.inr (Or.inl ⟨hr, hin, rfl, rfl⟩))
  · exact Or.inr (Or.inr (Or.inr ⟨hk, hin, rfl, hq⟩))

theorem insideRendered_of_mem_ancestors {table id : d.Id} (ht : table ∈ p.rendered)
    (h : table ∈ d.ancestors id) : p.insideRendered id = true := by
  rw [insideRendered, List.any_eq_true]
  exact ⟨table, h, List.contains_iff_mem.mpr ht⟩

theorem step_of_isWithin {table : d.Id} (hk : d.kind table = .table) (ht : table ∈ p.rendered)
    (h : IsWithin table v.id) :
    (step o p v).answer = .ok .goToNext ∧ (step o p v).after = p := by
  have hclosed : p.insideRendered v.id = true ∨ d.kind v.id = .table ∧ v.id ∈ p.rendered := by
    obtain h | h := h
    · rw [h]
      exact Or.inr ⟨hk, ht⟩
    · exact Or.inl (insideRendered_of_mem_ancestors ht h)
  rcases step_cases o p v with ⟨-, hv⟩ | ⟨-, hin, hm, -⟩ | ⟨hr, hin, -⟩ | ⟨hne, hin, -⟩
  · exact hv
  all_goals
    obtain h | ⟨hkv, hmv⟩ := hclosed
    · rw [hin] at h
      cases h
  · exact absurd hmv hm
  · rw [hkv] at hr
    cases hr
  · exact absurd hkv hne

theorem prefix_step (o : Options) (p : Pass d) (v : d.Visit) :
    p.out.toList <+: (step o p v).after.out.toList := by
  rcases step_cases o p v with ⟨-, -, hq⟩ | ⟨-, -, -, -, hq⟩ | ⟨-, -, -, hq⟩ | ⟨-, -, -, hq⟩
  · exact ⟨[], by rw [hq, List.append_nil]⟩
  · rw [hq, out_write]
    exact List.prefix_append _ _
  · exact ⟨[], by rw [hq, List.append_nil]⟩
  · rw [hq.out]
    exact List.prefix_append _ _

theorem rendered_subset_step (o : Options) (p : Pass d) (v : d.Visit) :
    p.rendered ⊆ (step o p v).after.rendered := by
  rcases step_cases o p v with ⟨-, -, hq⟩ | ⟨-, -, -, -, hq⟩ | ⟨-, -, -, hq⟩ | ⟨-, -, -, hq⟩
  · rw [hq]
    exact List.Subset.refl _
  · rw [hq]
    exact List.subset_cons_self _ _
  · rw [hq]
    exact List.Subset.refl _
  · rw [hq.rendered]
    exact List.Subset.refl _

theorem after_eq_of_error {e : RenderError} (h : (step o p v).answer = .error e) :
    (step o p v).after = p := by
  rcases step_cases o p v with ⟨-, ha, -⟩ | ⟨-, -, -, ha, -⟩ | ⟨-, -, -, hq⟩ | ⟨-, -, ha, -⟩
  · rw [ha] at h
    cases h
  · rw [ha] at h
    cases h
  · exact hq
  · rw [ha] at h
    cases h

theorem mem_rendered_of_renders {table : d.Id} (h : (step o p v).Renders table) :
    d.kind table = .table ∧ table ∈ (step o p v).after.rendered := by
  obtain ⟨hid, hanswer⟩ := h
  have hv : v.id = table := hid
  rcases step_cases o p v with ⟨-, ha, -⟩ | ⟨hk, -, -, -, hq⟩ | ⟨-, -, ha, -⟩ | ⟨-, -, ha, -⟩
  · rw [ha] at hanswer
    cases hanswer
  · rw [← hv, hq]
    exact ⟨hk, List.mem_cons_self⟩
  · rw [ha] at hanswer
    cases hanswer
  · rw [ha] at hanswer
    cases hanswer

theorem renders_of_appends (hk : d.kind v.id = .table) (h : (step o p v).appends = true) :
    (step o p v).Renders v.id := by
  have hne : (step o p v).after ≠ p := by
    intro e
    rw [Step.appends, e] at h
    simp [step] at h
  rcases step_cases o p v with ⟨-, -, hq⟩ | ⟨-, -, -, ha, -⟩ | ⟨-, -, -, hq⟩ | ⟨hkv, -⟩
  · exact absurd hq hne
  · exact ⟨rfl, ha⟩
  · exact absurd hq hne
  · exact absurd hk hkv

/-- What holds of each call of a history, as long as each call leaves the pass and the calls after
it as the next one needs them. -/
theorem forall_mem_history {I : Pass d → List d.Visit → Prop} {motive : Step d → Prop}
    (h : ∀ p v calls, I p (v :: calls) → motive (step o p v) ∧ I (step o p v).after calls)
    (calls : List d.Visit) (hp : I p calls) : ∀ s ∈ history o p calls, motive s := by
  induction calls generalizing p with
  | nil =>
    intro s hs
    cases hs
  | cons v calls ih =>
    obtain ⟨hv, hrest⟩ := h p v calls hp
    intro s hs
    rw [history, List.mem_cons] at hs
    obtain rfl | hs := hs
    · exact hv
    · exact ih hrest s hs

theorem history_of_mem_rendered {table : d.Id} (hk : d.kind table = .table)
    (calls : List d.Visit) (ht : table ∈ p.rendered) :
    ∀ s ∈ history o p calls, IsWithin table s.visit.id →
      s.answer = .ok .goToNext ∧ s.after = s.before :=
  forall_mem_history (I := fun p _ => table ∈ p.rendered)
    (fun p v _ ht => ⟨step_of_isWithin hk ht, rendered_subset_step o p v ht⟩) calls ht

theorem isChain_history (o : Options) (calls : List d.Visit) (p : Pass d) :
    (history o p calls).IsChain fun s s' => s'.before = s.after := by
  induction calls generalizing p with
  | nil => exact List.IsChain.nil
  | cons v calls ih =>
    cases calls with
    | nil => exact List.IsChain.singleton _
    | cons w calls => exact List.IsChain.cons_cons rfl (ih _)

theorem before_of_mem_head?_history {calls : List d.Visit} {s : Step d}
    (h : s ∈ (history o p calls).head?) : s.before = p := by
  cases calls with
  | nil => cases h
  | cons v calls =>
    cases h
    rfl

/-- A part of the pass that each call either sets or keeps is what the last of the calls to set it
made of it. -/
theorem part_of_isChain {α : Type} {part : Pass d → α} {set? : Step d → Option α}
    {first last : List (Step d)} {t : Step d}
    (hchain : (first ++ t :: last).IsChain fun s s' => s'.before = s.after)
    (hstart : ∀ s ∈ (first ++ t :: last).head?, s.before = p)
    (hset : ∀ s ∈ first, part s.after = (set? s).getD (part s.before)) :
    part t.before = (first.filterMap set?).getLast?.getD (part p) := by
  induction first generalizing p with
  | nil =>
    rw [hstart t rfl]
    rfl
  | cons s first ih =>
    obtain ⟨hnext, hchain⟩ := List.isChain_cons.mp hchain
    have hs := hset s List.mem_cons_self
    rw [hstart s rfl] at hs
    rw [ih hchain hnext fun s hs => hset s (List.mem_cons_of_mem _ hs), hs]
    cases ha : set? s with
    | none =>
      rw [List.filterMap_cons_none ha]
      rfl
    | some a =>
      rw [List.filterMap_cons_some ha, List.getLast?_cons]
      rfl

theorem pairwise_history (calls : List d.Visit) (p : Pass d) :
    (history o p calls).Pairwise fun s s' => ∀ table, s.Renders table →
      IsWithin table s'.visit.id → s'.answer = .ok .goToNext ∧ s'.after = s'.before := by
  induction calls generalizing p with
  | nil => exact List.Pairwise.nil
  | cons v calls ih =>
    rw [history, List.pairwise_cons]
    refine ⟨?_, ih _⟩
    intro s hs table hrenders
    obtain ⟨hk, ht⟩ := mem_rendered_of_renders hrenders
    exact history_of_mem_rendered hk calls ht s hs

theorem length_appending_le_one {table : d.Id} (hk : d.kind table = .table)
    (calls : List d.Visit) (p : Pass d) :
    ((history o p calls).filter fun s => s.visit.id == table && s.appends).length ≤ 1 := by
  induction calls generalizing p with
  | nil => simp [history]
  | cons v calls ih =>
    rw [history, List.filter_cons]
    split_ifs with happends
    · simp only [Bool.and_eq_true, beq_iff_eq] at happends
      obtain ⟨hid, happends⟩ := happends
      have hid : v.id = table := hid
      have hrenders := renders_of_appends (hid ▸ hk) happends
      have ht := (mem_rendered_of_renders hrenders).2
      rw [hid] at ht
      have hnone : (history o (step o p v).after calls).filter
          (fun s => s.visit.id == table && s.appends) = [] := by
        rw [List.filter_eq_nil_iff]
        intro s hs hsa
        simp only [Bool.and_eq_true, beq_iff_eq] at hsa
        have hafter := (history_of_mem_rendered hk calls ht s hs (Or.inl hsa.1)).2
        rw [Step.appends, hafter] at hsa
        simp at hsa
      rw [hnone]
      exact Nat.le_refl 1
    · exact ih _

end Pass

/-- Calls on one renderer, in any order and with failures among them: each only appends to the
output, one that fails changes nothing, on each table at most one appends anything, and after a
table has been rendered no call within it does anything. -/
theorem calls_append_and_render_tables_once (d : Document) (o : Options) (calls : List d.Visit) :
    (∀ s ∈ Pass.history o {} calls, s.before.out.toList <+: s.after.out.toList) ∧
    (∀ s ∈ Pass.history o {} calls, ∀ e, s.answer = .error e → s.after = s.before) ∧
    (∀ table, d.kind table = .table →
      ((Pass.history o {} calls).filter fun s => s.visit.id == table && s.appends).length ≤ 1) ∧
    (Pass.history o {} calls).Pairwise fun s s' => ∀ table, s.Renders table →
      Pass.IsWithin table s'.visit.id → s'.answer = .ok .goToNext ∧ s'.after = s'.before := by
  have hany : ∀ {motive : Pass.Step d → Prop}, (∀ p v, motive (Pass.step o p v)) →
      ∀ s ∈ Pass.history o {} calls, motive s := fun h =>
    Pass.forall_mem_history (I := fun _ _ => True) (fun p v _ _ => ⟨h p v, trivial⟩) calls trivial
  refine ⟨hany (Pass.prefix_step o), hany ?_, ?_, Pass.pairwise_history calls {}⟩
  · intro p v e he
    exact Pass.after_eq_of_error he
  · intro table hk
    exact Pass.length_appending_le_one hk calls {}

/-- A table rendered on its exit is not rendered again, and neither the table inside it nor the
citation there is noticed any more. -/
theorem calls_pass_over_rendered_table :
    let d := Document.ofTrees [.node .table [.node .tableRow [.node (.tableCell [])
      [.node .table [], .node .citation []]]]]
    let calls : List d.Visit := [⟨⟨4, by decide⟩, true⟩, ⟨⟨5, by decide⟩, true⟩,
      ⟨⟨1, by decide⟩, true⟩]
    let steps := Pass.history {} {} (⟨⟨1, by decide⟩, false⟩ :: calls)
    ∀ s ∈ steps.tail, s.answer = .ok .goToNext ∧ s.after = s.before := by
  intro d calls steps s hs
  have hpairwise := (calls_append_and_render_tables_once d {}
    (⟨⟨1, by decide⟩, false⟩ :: calls)).2.2.2
  have hrenders : (Pass.step {} ({} : Pass d) ⟨⟨1, by decide⟩, false⟩).answer =
      .ok .skipChildren := by
    decide +kernel
  have hvisit : s.visit ∈ calls := by
    have hmem := List.mem_map_of_mem (f := Pass.Step.visit) hs
    exact Pass.map_visit_history {} calls _ ▸ hmem
  have hwithin : ∀ v ∈ calls, Pass.IsWithin ⟨1, by decide⟩ v.id := by decide +kernel
  exact (List.pairwise_cons.mp hpairwise).1 s hs ⟨1, by decide⟩ ⟨rfl, hrenders⟩
    (hwithin s.visit hvisit)

end ChatMarkup
