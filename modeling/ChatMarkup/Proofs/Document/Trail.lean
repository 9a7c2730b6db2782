import ChatMarkup.Proofs.Document.Traversal

namespace ChatMarkup
namespace Document

variable {d : Document} {skip : Kind → Bool} {fail : Option Kind} {kind : Kind} {v : d.Visit}
  {before after l : List d.Visit}

theorem keepsTo_logVisit (skip : Kind → Bool) (fail : Option Kind) :
    KeepsTo (d.logVisit skip fail) skip := by
  intro id log log' status h
  unfold logVisit at h
  dsimp only at h
  split_ifs at h with hfail hk
  all_goals
    cases h
    simp [hk]

theorem runVisit_logVisit (log : List d.Visit) (v : d.Visit) :
    runVisit (d.logVisit skip fail) log v =
      if fail = some (d.kind v.id) then .error (log ++ [v], d.kind v.id) else .ok (log ++ [v]) := by
  unfold runVisit logVisit
  dsimp only
  split_ifs <;> rfl

theorem foldlM_logVisit (h : ∀ v ∈ l, fail ≠ some (d.kind v.id)) (log : List d.Visit) :
    l.foldlM (runVisit (d.logVisit skip fail)) log = .ok (log ++ l) := by
  induction l generalizing log with
  | nil => simp [pure, Except.pure]
  | cons v l ih =>
    rw [List.foldlM_cons, runVisit_logVisit, if_neg (h v List.mem_cons_self)]
    have hrest := ih (fun w hw => h w (List.mem_cons_of_mem _ hw)) (log ++ [v])
    rw [List.append_assoc] at hrest
    exact hrest

theorem trail_of_ok
    (h : (d.visits skip).foldlM (runVisit (d.logVisit skip fail)) [] = .ok l) :
    d.trail skip fail = (l, none) := by
  rw [visits, ← walkFrom_eq_foldlM (keepsTo_logVisit skip fail)] at h
  rw [trail, walk, h]

theorem trail_of_error
    (h : (d.visits skip).foldlM (runVisit (d.logVisit skip fail)) [] = .error (l, kind)) :
    d.trail skip fail = (l, some kind) := by
  rw [visits, ← walkFrom_eq_foldlM (keepsTo_logVisit skip fail)] at h
  rw [trail, walk, h]

theorem trail_of_forall_ne (h : ∀ v ∈ d.visits skip, fail ≠ some (d.kind v.id)) :
    d.trail skip fail = (d.visits skip, none) := trail_of_ok (foldlM_logVisit h [])

theorem trail_of_first (hvisits : d.visits skip = before ++ v :: after)
    (hbefore : ∀ u ∈ before, d.kind u.id ≠ kind) (hv : d.kind v.id = kind) :
    d.trail skip (some kind) = (before ++ [v], some kind) := by
  have hrun : before.foldlM (runVisit (d.logVisit skip (some kind))) [] = .ok before :=
    foldlM_logVisit (fun u hu h => hbefore u hu (Option.some.inj h).symm) []
  have hfail : (v :: after).foldlM (runVisit (d.logVisit skip (some kind))) before =
      .error (before ++ [v], kind) := by
    rw [List.foldlM_cons, runVisit_logVisit, if_pos (congrArg some hv.symm), hv]
    rfl
  apply trail_of_error
  rw [hvisits, List.foldlM_append, hrun]
  exact hfail

/-- A walk that nothing stops makes the visits of the one traversal that there is. One that fails on
a kind makes the same visits up to the first one of a node of that kind, on entry or on exit, and
fails there. -/
theorem trail_traverses (d : Document) (skip : Kind → Bool) :
    ∃ visits, d.trail skip none = (visits, none) ∧
      (∀ l, d.IsTraversal skip l ↔ l = visits) ∧ ∀ fail : Kind,
      ((∀ v ∈ visits, d.kind v.id ≠ fail) ∧ d.trail skip (some fail) = (visits, none)) ∨
      ∃ before v after, visits = before ++ v :: after ∧ (∀ u ∈ before, d.kind u.id ≠ fail) ∧
        d.kind v.id = fail ∧ d.trail skip (some fail) = (before ++ [v], some fail) := by
  have hvisits := d.isTraversal_visits skip
  have hone : ∀ l, d.IsTraversal skip l ↔ l = d.visits skip :=
    fun l => ⟨fun hl => hl.eq hvisits, fun hl => hl ▸ hvisits⟩
  refine ⟨d.visits skip, trail_of_forall_ne fun _ _ => nofun, hone, fun fail => ?_⟩
  cases hfind : (d.visits skip).find? fun v => d.kind v.id == fail with
  | none =>
    have hne : ∀ v ∈ d.visits skip, d.kind v.id ≠ fail := by
      intro v hv
      simpa using List.find?_eq_none.mp hfind v hv
    refine Or.inl ⟨hne, trail_of_forall_ne fun v hv h => ?_⟩
    exact hne v hv (Option.some.inj h).symm
  | some v =>
    obtain ⟨hv, before, after, hvisits, hbefore⟩ := List.find?_eq_some_iff_append.mp hfind
    have hv : d.kind v.id = fail := by simpa using hv
    have hbefore : ∀ u ∈ before, d.kind u.id ≠ fail := by simpa using hbefore
    exact Or.inr ⟨before, v, after, hvisits, hbefore, hv, trail_of_first hvisits hbefore hv⟩

/-- Neither the node below the text nor the one below the skipped list is visited. -/
example :
    let d := (((new.append ⟨0, by decide⟩ (.text [])).append ⟨0, by decide⟩ (.list true)).append
      ⟨1, by decide⟩ .emph).append ⟨2, by decide⟩ .paragraph
    d.trail (· == .list) none = ([⟨⟨0, by decide⟩, true⟩, ⟨⟨1, by decide⟩, true⟩,
      ⟨⟨2, by decide⟩, true⟩, ⟨⟨2, by decide⟩, false⟩, ⟨⟨0, by decide⟩, false⟩], none) := by
  decide +kernel

end Document
end ChatMarkup
