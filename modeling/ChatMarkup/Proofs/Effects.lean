import Mathlib.Control.Monad.Basic

namespace ChatMarkup

variable {ε σ α β : Type}

theorem exists_of_bind_eq_ok {x : Except ε α} {f : α → Except ε β} {b : β} (h : x >>= f = .ok b) :
    ∃ a, x = .ok a ∧ f a = .ok b := by
  cases x with
  | error e => cases h
  | ok a => exact ⟨a, rfl, h⟩

/-- Whether an action leaves the state as it was. -/
def Quiet (x : StateM σ α) : Prop := ∀ s, (x.run s).2 = s

/-- Whether an action that fails leaves the state as it was. -/
def Atomic (x : ExceptT ε (StateM σ) α) : Prop :=
  ∀ s e, (x.run.run s).1 = .error e → (x.run.run s).2 = s

theorem quiet_pure (a : α) : Quiet (pure a : StateM σ α) := fun _ => rfl

theorem quiet_bind {x : StateM σ α} {f : α → StateM σ β} (hx : Quiet x) (hf : ∀ a, Quiet (f a)) :
    Quiet (x >>= f) := fun s =>
  calc
    ((x >>= f).run s).2 = ((f (x.run s).1).run (x.run s).2).2 := rfl
    _ = (x.run s).2 := hf _ _
    _ = s := hx s

theorem quiet_run_lift {x : StateM σ α} (hx : Quiet x) :
    Quiet (ExceptT.lift x : ExceptT ε (StateM σ) α).run := fun s => hx s

theorem quiet_run_bind {x : ExceptT ε (StateM σ) α} {f : α → ExceptT ε (StateM σ) β}
    (hx : Quiet x.run) (hf : ∀ a, Quiet (f a).run) : Quiet (x >>= f).run := by
  rw [ExceptT.run_bind]
  refine quiet_bind hx fun r => ?_
  cases r with
  | ok a => exact hf a
  | error e => exact quiet_pure _

/-- After an action that leaves the state as it was, the next one starts from the same state. -/
theorem run_bind_of_quiet {x : ExceptT ε (StateM σ) α} (hx : Quiet x.run)
    (f : α → ExceptT ε (StateM σ) β) (s : σ) :
    (x >>= f).run.run s =
      match (x.run.run s).1 with
      | .ok a => (f a).run.run s
      | .error e => (.error e, s) := by
  rw [ExceptT.run_bind]
  change ((match (x.run.run s).1 with
    | .ok a => (f a).run
    | .error e => pure (.error e) : StateM σ (Except ε β)).run (x.run.run s).2) = _
  rw [hx s]
  cases (x.run.run s).1 <;> rfl

theorem atomic_of_quiet {x : ExceptT ε (StateM σ) α} (hx : Quiet x.run) : Atomic x :=
  fun s _ _ => hx s

theorem atomic_bind {x : ExceptT ε (StateM σ) α} {f : α → ExceptT ε (StateM σ) β}
    (hx : Quiet x.run) (hf : ∀ a, Atomic (f a)) : Atomic (x >>= f) := by
  intro s e h
  rw [run_bind_of_quiet hx] at h ⊢
  cases hr : (x.run.run s).1 with
  | error e' => rfl
  | ok a =>
    rw [hr] at h
    exact hf a s e h

end ChatMarkup
