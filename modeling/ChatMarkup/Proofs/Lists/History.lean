import ChatMarkup.ListNumbering
import Mathlib.Data.List.DropRight

namespace ChatMarkup.ListNumbering

/-- What is done with a numbering. -/
inductive Call where
  | enter (ordered : Bool)
  | next
  | exit
  deriving DecidableEq, Repr

def perform (l : ListNumbering) : Call → ListNumbering
  | .enter ordered => l.enter ordered
  | .next => l.next.2
  | .exit => l.exit

def ofCalls (calls : List Call) : ListNumbering := calls.foldl perform {}

def Call.depthAfter (depth : Nat) : Call → Nat
  | .enter _ => depth + 1
  | .next => depth
  | .exit => depth - 1

/-- The depth after some calls: each list entered counts one, each list left takes one away as long
as there is one. -/
def depthAfter (calls : List Call) : Nat := calls.foldl Call.depthAfter 0

/-- The calls from some depth on, each with the depth that it leads to. -/
def trace (depth : Nat) : List Call → List (Nat × Call)
  | [] => []
  | call :: calls => (call.depthAfter depth, call) :: trace (call.depthAfter depth) calls

/-- How many items were numbered at a depth since an ordered list was last entered there, or since
the start. -/
def itemsSince (depth : Nat) (calls : List Call) : Nat :=
  ((trace 0 calls).rtakeWhile (· != (depth, .enter true))).count (depth, .next)

variable {l : ListNumbering} {call : Call} {calls : List Call}

theorem depth_perform (l : ListNumbering) (call : Call) :
    (l.perform call).depth = call.depthAfter l.depth := by
  cases call with
  | enter ordered => exact enter_depth l ordered
  | next => rfl
  | exit => rfl

theorem ofCalls_concat (calls : List Call) (call : Call) :
    ofCalls (calls ++ [call]) = (ofCalls calls).perform call := by
  simp [ofCalls]

theorem depthAfter_concat (calls : List Call) (call : Call) :
    depthAfter (calls ++ [call]) = call.depthAfter (depthAfter calls) := by
  simp [depthAfter]

theorem depth_ofCalls (calls : List Call) : (ofCalls calls).depth = depthAfter calls := by
  induction calls using List.reverseRecOn with
  | nil => rfl
  | append_singleton calls call ih => rw [ofCalls_concat, depthAfter_concat, depth_perform, ih]

theorem trace_concat (depth : Nat) (calls : List Call) (call : Call) :
    trace depth (calls ++ [call]) =
      trace depth calls ++
        [(call.depthAfter (calls.foldl Call.depthAfter depth), call)] := by
  induction calls generalizing depth with
  | nil => rfl
  | cons first calls ih => rw [List.cons_append, trace, trace, ih, List.cons_append, List.foldl_cons]

/-- A call sets the counter of a depth to 1 if it enters an ordered list there, raises it by one if
it numbers an item there, and leaves it alone otherwise. -/
theorem ordinal_perform (l : ListNumbering) (call : Call) (k : Nat) :
    (l.perform call).ordinal k =
      if (call.depthAfter l.depth, call) = (k, .enter true) then 1
      else if (call.depthAfter l.depth, call) = (k, .next) then l.ordinal k + 1
      else l.ordinal k := by
  cases call with
  | enter ordered =>
    cases ordered with
    | false => simp [perform, enter]
    | true =>
      by_cases hk : k = l.depth + 1
      · simp [perform, enter, setNext, Call.depthAfter, hk]
      · simp [perform, enter, setNext, Call.depthAfter, hk, Ne.symm hk]
  | next =>
    by_cases hk : k = l.depth
    · simp [perform, next, setNext, Call.depthAfter, hk]
    · simp [perform, next, setNext, Call.depthAfter, hk, Ne.symm hk]
  | exit => simp [perform, exit]

theorem itemsSince_concat (k : Nat) (calls : List Call) (call : Call) :
    itemsSince k (calls ++ [call]) =
      if (call.depthAfter (depthAfter calls), call) = (k, .enter true) then 0
      else if (call.depthAfter (depthAfter calls), call) = (k, .next) then itemsSince k calls + 1
      else itemsSince k calls := by
  rw [itemsSince, trace_concat, ← depthAfter]
  generalize call.depthAfter (depthAfter calls) = depth
  by_cases hstart : (depth, call) = (k, .enter true)
  · rw [if_pos hstart, List.rtakeWhile_concat_neg _ _ _ (by simp [hstart])]
    rfl
  · rw [if_neg hstart, List.rtakeWhile_concat_pos _ _ _ (by simpa using hstart), List.count_append]
    by_cases hitem : (depth, call) = (k, .next)
    · rw [if_pos hitem, hitem]
      simp [itemsSince]
    · rw [if_neg hitem]
      simp [itemsSince, hitem]

/-- Every counter, also one of a list that was left, is one ahead of the items since its list was
entered: a counter that was never set starts at 1, as an ordered list does. -/
theorem ordinal_ofCalls (calls : List Call) (k : Nat) :
    (ofCalls calls).ordinal k = 1 + itemsSince k calls := by
  induction calls using List.reverseRecOn with
  | nil => rfl
  | append_singleton calls call ih =>
    rw [ofCalls_concat, ordinal_perform, itemsSince_concat, depth_ofCalls, ih]
    split_ifs <;> omega

/-- Whatever was called, the depth is the running count of lists entered and left, and the next
ordinal is one more than the items numbered at that depth since an ordered list was last entered
there. Calls at other depths, lists left and lists without numbers change no ordinal. -/
theorem ordinals_follow_calls (calls : List Call) :
    (ofCalls calls).depth = depthAfter calls ∧
    (ofCalls calls).inList = decide (0 < depthAfter calls) ∧
    (ofCalls calls).next.1 = 1 + itemsSince (depthAfter calls) calls ∧
    ∀ call k, call = .exit ∨ call = .enter false ∨ call.depthAfter (depthAfter calls) ≠ k →
      (ofCalls (calls ++ [call])).ordinal k = (ofCalls calls).ordinal k := by
  refine ⟨depth_ofCalls calls, ?_, ?_, ?_⟩
  · rw [inList, depth_ofCalls]
  · rw [← depth_ofCalls]
    exact ordinal_ofCalls calls _
  · intro call k hcall
    have hstart : (call.depthAfter (depthAfter calls), call) ≠ (k, .enter true) := by
      rw [Ne, Prod.mk.injEq]
      rintro ⟨hk, rfl⟩
      simp [hk] at hcall
    have hitem : (call.depthAfter (depthAfter calls), call) ≠ (k, .next) := by
      rw [Ne, Prod.mk.injEq]
      rintro ⟨hk, rfl⟩
      simp [hk] at hcall
    rw [ofCalls_concat, ordinal_perform, depth_ofCalls, if_neg hstart, if_neg hitem]

/-- An item outside of all lists after one list too many was left, and then a list without numbers
that goes on with the numbers of the one before it. -/
theorem ordinals_follow_calls_past_outermost :
    let calls : List Call := [.enter true, .next, .enter false, .next, .exit, .next, .exit, .exit,
      .next, .enter false]
    let call : Call := .enter true
    (call = .exit ∨ call = .enter false ∨ call.depthAfter (depthAfter calls) ≠ 1) ∧
      (ofCalls calls).depth = 1 ∧ (ofCalls calls).next.1 = 3 ∧
      (ofCalls (calls ++ [call])).ordinal 1 = 3 := by
  intro calls call
  have hcall : call = .exit ∨ call = .enter false ∨ call.depthAfter (depthAfter calls) ≠ 1 := by
    decide
  obtain ⟨hdepth, -, hnext, hkept⟩ := ordinals_follow_calls calls
  have hone : depthAfter calls = 1 := by decide
  have hthree : 1 + itemsSince 1 calls = 3 := by decide
  rw [hone, hthree] at hnext
  refine ⟨hcall, hdepth.trans hone, hnext, ?_⟩
  rw [hkept call 1 hcall, ← hnext, next, hdepth, hone]

end ChatMarkup.ListNumbering
