import ChatMarkup.Config.Load
import Mathlib.Tactic.SplitIfs

namespace ChatMarkup.Config
namespace Value

variable {p : Value → Bool} {key : Text} {keys : List Text} {v x old : Value}

def lookup : List Text → Value → Option Value
  | [], v => some v
  | key :: keys, v => (v.get? key).bind (lookup keys)

/-- The value that some keys lead to in a tree that is still to be merged: the case of its keys does
not matter, and of two that are alike the later one counts. -/
def pick : List Text → Value → Option Value
  | [], v => some v
  | key :: keys, table es =>
    es.reverse.findSome? fun e => if Text.lower e.1 = key then pick keys e.2 else none
  | _ :: _, _ => none

/-- Whether a tree has nothing but tables on the way along some keys, and nothing but values of some
kind at the end of it. -/
def fitsAt (p : Value → Bool) : List Text → Value → Bool
  | [], v => p v
  | key :: keys, table es => es.all fun e => Text.lower e.1 != key || fitsAt p keys e.2
  | _ :: _, _ => false

/-- A kind of values that no table is of. -/
structure IsLeaf (p : Value → Bool) : Prop where
  null : p null = false
  table : ∀ es, p (table es) = false

theorem pick_cons (e : Text × Value) (es : Entries) :
    pick (key :: keys) (table (e :: es)) =
      (pick (key :: keys) (table es)).or
        (if Text.lower e.1 = key then pick keys e.2 else none) := by
  rw [pick, pick, List.reverse_cons, List.findSome?_append, List.findSome?_singleton]

theorem fitsAt_cons (e : Text × Value) (es : Entries) :
    fitsAt p (key :: keys) (table (e :: es)) = true ↔
      (Text.lower e.1 = key → fitsAt p keys e.2 = true) ∧
        fitsAt p (key :: keys) (table es) = true := by
  simp only [fitsAt, List.all_cons, Bool.and_eq_true, Bool.or_eq_true, bne_iff_ne, ne_eq,
    Decidable.imp_iff_not_or]

theorem lookup_put (es : Entries) (k : Text) (v : Value) :
    lookup (key :: keys) (table (es.put k v)) =
      if k = key then lookup keys v else (es.get? key).bind (lookup keys) := by
  rw [lookup, Value.get?, entries]
  split_ifs with h
  · rw [h, Entries.get?_put_self, Option.bind_some]
  · rw [Entries.get?_put_of_ne es v (Ne.symm h)]

theorem of_pick_eq_some (h : fitsAt p keys v = true) (hx : pick keys v = some x) : p x = true := by
  induction keys generalizing v with
  | nil =>
    cases hx
    exact h
  | cons key keys ih =>
    cases v with
    | table es =>
      rw [fitsAt, List.all_eq_true] at h
      rw [pick] at hx
      obtain ⟨e, he, hx⟩ := List.exists_of_findSome?_eq_some hx
      have hfit := h e (List.mem_reverse.mp he)
      split_ifs at hx with hk
      rw [hk, bne_self_eq_false, Bool.false_or] at hfit
      exact ih hfit hx
    | _ => cases hx

/-- One merge of a value: at a path where it fits, what it has there or else what was there. -/
theorem lookup_store (hp : IsLeaf p) (h : fitsAt p keys v = true) (old? : Option Value) :
    lookup keys (v.store old?) = (pick keys v).or (old?.bind (lookup keys)) := by
  induction keys generalizing v old? with
  | nil =>
    cases v with
    | table es =>
      rw [fitsAt, hp.table es] at h
      cases h
    | _ => rfl
  | cons key keys ih =>
    cases v with
    | table es =>
      rw [store]
      -- What is not there counts as an empty table, which has nothing under any key.
      have hold : old?.bind (lookup (key :: keys)) =
          lookup (key :: keys) (old?.getD (table [])) := by
        cases old? <;> rfl
      rw [hold]
      generalize old?.getD (table []) = target
      induction es generalizing target with
      | nil => rfl
      | cons e es ihes =>
        obtain ⟨hhead, htail⟩ := (fitsAt_cons e es).mp h
        rw [storeEach, ihes htail, pick_cons, Option.or_assoc, lookup_put]
        split_ifs with hk
        · rw [ih (hhead hk), hk, lookup, Value.get?]
        · rw [Option.none_or, lookup, Value.get?]
    | _ => cases h

/-- A tree that has a value at the end of some steps; a place in a list is nothing that a tree
has. -/
def along (v : Value) : List Step → Value
  | [] => v
  | .name key :: steps => table [(key, along v steps)]
  | .place _ :: _ => null

theorem fitsAt_null (hp : IsLeaf p) : fitsAt p keys null = false := by
  cases keys with
  | nil => exact hp.null
  | cons => rfl

theorem fitsAt_nil_along_cons (hp : IsLeaf p) (v : Value) (s : Step) (steps : List Step) :
    fitsAt p [] (along v (s :: steps)) = false := by
  cases s with
  | name key => exact hp.table _
  | place n => exact hp.null

theorem lookup_getD_null {old? : Option Value} (h : keys ≠ []) :
    lookup keys (old?.getD null) = old?.bind (lookup keys) := by
  cases old? with
  | some old => rfl
  | none =>
    cases keys with
    | nil => exact absurd rfl h
    | cons => rfl

theorem lookup_set (hp : IsLeaf p) {steps : List Step} (h : fitsAt p keys (along v steps) = true) :
    lookup keys (v.set steps old) = (pick keys (along v steps)).or (lookup keys old) := by
  induction steps generalizing keys old with
  | nil => exact lookup_store hp h (some old)
  | cons s steps ih =>
    cases s with
    | place n =>
      rw [along, fitsAt_null hp] at h
      cases h
    | name k =>
      cases keys with
      | nil =>
        rw [fitsAt_nil_along_cons hp] at h
        cases h
      | cons key keys =>
        have hfit := ((fitsAt_cons (k, along v steps) []).mp h).1
        -- The last step merges the value, each step before it goes on below.
        have hset : ∃ inner, v.set (.name k :: steps) old =
            table (old.entries.put (Text.lower k) inner) ∧ (Text.lower k = key →
              lookup keys inner =
                (pick keys (along v steps)).or ((old.get? key).bind (lookup keys))) := by
          cases steps with
          | nil => exact ⟨_, rfl, fun hk => by rw [hk]; exact lookup_store hp (hfit hk) _⟩
          | cons s steps =>
            refine ⟨_, rfl, fun hk => ?_⟩
            have hkeys : keys ≠ [] := by
              rintro rfl
              have hfits := hfit hk
              rw [fitsAt_nil_along_cons hp] at hfits
              cases hfits
            rw [ih (hfit hk), lookup_getD_null hkeys, hk, Value.get?]
        obtain ⟨inner, hset, hinner⟩ := hset
        rw [hset, lookup_put, along, pick_cons, lookup]
        split_ifs with hk
        · exact hinner hk
        · rfl

end Value

def Path.ofKey (key : Text) : Path := (Path.parse? key).getD ⟨key, []⟩

def taken (e : Text × Value) : Text × Value :=
  ((Path.ofKey e.1).first, e.2.along (Path.ofKey e.1).steps)

/-- A file as one tree: a key that is a written path stands for the tables on the way. -/
def tree (entries : Entries) : Value := .table (entries.map taken)

variable {p : Value → Bool} {key : Text} {keys : List Text} {entries : Entries}

open Value in
/-- A file that is laid over a tree: at a path where it fits, what it has there or else what was
there. -/
theorem lookup_addEntries (hp : IsLeaf p) (h : fitsAt p (key :: keys) (tree entries) = true)
    (root : Value) :
    lookup (key :: keys) (addEntries root entries) =
      (pick (key :: keys) (tree entries)).or (lookup (key :: keys) root) := by
  induction entries generalizing root with
  | nil => rfl
  | cons e entries ih =>
    obtain ⟨hhead, htail⟩ := (fitsAt_cons (taken e) (entries.map taken)).mp h
    have hfit : fitsAt p (key :: keys) (e.2.along (.name (Path.ofKey e.1).first ::
        (Path.ofKey e.1).steps)) = true := (fitsAt_cons (taken e) []).mpr ⟨hhead, rfl⟩
    have hpick : pick (key :: keys) (tree (e :: entries)) =
        (pick (key :: keys) (tree entries)).or (pick (key :: keys) (table [taken e])) := by
      rw [tree, List.map_cons, pick_cons, pick_cons (taken e) []]
      rfl
    rw [hpick, Option.or_assoc]
    exact (ih htail _).trans (congrArg _ (lookup_set hp hfit))

end ChatMarkup.Config
