import ChatMarkup.Cli.Extras
import Mathlib.Data.List.Find
import Mathlib.Tactic.SplitIfs

namespace ChatMarkup.Cli

open Config (Settings)

namespace Extras

variable {arg name : Text} {args : List Text} {extras : Extras}

/-- The value of a parameter before some arguments. -/
def valueBefore : List Text → Text
  | [] => alone
  | value :: _ => if isHyphenated value then alone else value

/-- Every parameter that stands among some arguments, in order, with its value. -/
def occurrences : List Text → Extras
  | [] => []
  | arg :: args => ((name? arg).map (·, valueBefore args)).toList ++ occurrences args

/-- The value of a parameter among some arguments: the last one. -/
def last? (args : List Text) (name : Text) : Option Text :=
  List.lookup name (occurrences args).reverse

theorem isHyphenated_of_name? (h : name? arg = some name) : isHyphenated arg = true := by
  have hprefix : ∀ rest, isHyphenated ('-' :: rest) = true := fun _ => rfl
  rw [name?, Option.or_eq_some_iff] at h
  obtain h | ⟨-, h⟩ := h
  all_goals
    rw [Text.dropFront?_eq_some_iff.mp h]
    exact hprefix _

theorem lookup_cons (name value : Text) (later : Extras) (other : Text) :
    List.lookup other ((name, value) :: later) =
      if other = name then some value else List.lookup other later := by
  rw [List.lookup_cons]
  split_ifs with h
  · simp [h]
  · rw [beq_false_of_ne h]

theorem lookup_add (name value : Text) (later : Extras) (other : Text) :
    List.lookup other (add name value later) =
      (List.lookup other later).or (List.lookup other [(name, value)]) := by
  rw [lookup_cons, List.lookup_nil, add]
  split_ifs with hlater hother hother
  · rw [← hother] at hlater
    exact (Option.or_of_isSome hlater).symm
  · rw [Option.or_none]
  · rw [lookup_cons, if_pos hother, hother, Option.not_isSome_iff_eq_none.mp hlater, Option.none_or]
  · rw [lookup_cons, if_neg hother, Option.or_none]

theorem last?_cons (arg : Text) (args : List Text) (other : Text) :
    last? (arg :: args) other = (last? args other).or
      (List.lookup other ((name? arg).map (·, valueBefore args)).toList) := by
  rw [last?, occurrences, List.reverse_append, List.lookup_append, last?]
  cases name? arg <;> rfl

/-- Of a parameter that is given several times, the last value counts. -/
theorem lookup_split (args : List Text) (name : Text) :
    List.lookup name (split args).2 = last? args name := by
  fun_induction split args with
  | case1 => rfl
  | case2 arg args hn others extras hsplit ih =>
    rw [last?_cons, hn, ← ih, hsplit]
    simp
  | case3 arg flag hn =>
    rw [lookup_add, last?_cons, hn]
    rfl
  | case4 arg flag hn value rest hv others extras hsplit ih =>
    rw [lookup_add, last?_cons, hn, ← ih, hsplit, valueBefore, if_pos hv]
    rfl
  | case5 arg flag hn value rest hv others extras hsplit ih =>
    -- The value is passed over here, and as an argument of its own it gives no parameter.
    have hplain : name? value = none := Option.eq_none_iff_forall_ne_some.mpr fun _ h =>
      hv (isHyphenated_of_name? h)
    rw [lookup_add, last?_cons, hn, last?_cons value, hplain, ← ih, hsplit, valueBefore, if_neg hv]
    simp

/-- The first of some names that is given. -/
def given? (extras : Extras) (names : List String) : Option String :=
  names.find? fun name => (List.lookup name.toList extras).isSome

def value? (extras : Extras) (names : List String) : Option Text :=
  (extras.given? names).bind fun name => List.lookup name.toList extras

theorem given?_congr {current : Extras} {names : List String}
    (h : ∀ name ∈ names, List.lookup name.toList current = List.lookup name.toList extras) :
    current.given? names = extras.given? names :=
  List.find?_congr fun name hname => by rw [h name hname]

theorem value?_congr {current : Extras} {names : List String}
    (h : ∀ name ∈ names, List.lookup name.toList current = List.lookup name.toList extras) :
    current.value? names = extras.value? names := by
  rw [value?, value?, given?_congr h]
  cases hgiven : extras.given? names with
  | none => rfl
  | some name => exact h name (List.mem_of_find?_eq_some hgiven)

theorem take_eq (extras : Extras) (names : List String) :
    extras.take names = (extras.value? names,
      extras.filter fun e => !(extras.given? names).any (e.1 == ·.toList)) := by
  induction names with
  | nil => exact Prod.ext rfl (List.filter_eq_self.mpr fun _ _ => rfl).symm
  | cons name names ih =>
    rw [take, value?, given?, List.find?_cons]
    cases h : List.lookup name.toList extras with
    | none => exact ih
    | some value =>
      dsimp only [Option.isSome]
      rw [Option.bind_some, h]
      rfl

end Extras

namespace Knob

variable {k : Knob} {extras current : Extras}

def names (k : Knob) : List String := k.name :: k.aliases

/-- Whether a knob uses up the parameter of a name. -/
def uses (k : Knob) (extras : Extras) (name : Text) : Bool :=
  (extras.given? k.names).any (name == ·.toList)

def turnBy (k : Knob) (raw? : Option Text) (s : Settings) : Except ExtraError Settings :=
  match raw? with
  | some raw => k.turn k.name raw s
  | none => .ok s

theorem use_eq (k : Knob) (s : Settings) (extras : Extras) :
    k.use s extras = (k.turnBy (extras.value? k.names) s).map
      (·, extras.filter fun e => !k.uses extras e.1) := by
  have htake := extras.take_eq k.names
  rw [names] at htake
  rw [use, htake, names]
  cases extras.value? (k.name :: k.aliases) <;> rfl

theorem uses_eq_false {name : String} (h : name ∉ k.names) (extras : Extras) :
    k.uses extras name.toList = false := by
  rw [uses, Option.any_eq_false]
  intro given hgiven
  rw [beq_eq_false_iff_ne]
  intro heq
  rw [String.toList_inj.mp heq] at h
  exact h (List.mem_of_find?_eq_some hgiven)

/-- Knobs that have all their names to themselves, in order. What earlier ones have used up does not
change what later ones find. -/
theorem foldlM_use {knobs : List Knob} (h : (knobs.flatMap names).Nodup)
    (hagree : ∀ k ∈ knobs, ∀ name ∈ k.names,
      List.lookup name.toList current = List.lookup name.toList extras) (s : Settings) :
    knobs.foldlM (fun (s, extras) (k : Knob) => k.use s extras) (s, current) =
      (knobs.foldlM (fun s (k : Knob) => k.turnBy (extras.value? k.names) s) s).map
        (·, current.filter fun e => !knobs.any (·.uses extras e.1)) := by
  induction knobs generalizing s current with
  | nil =>
    have hfilter : current.filter (fun e => !([] : List Knob).any (·.uses extras e.1)) = current :=
      List.filter_eq_self.mpr fun _ _ => rfl
    rw [hfilter]
    rfl
  | cons k knobs ih =>
    have hk := hagree k List.mem_cons_self
    rw [List.flatMap_cons, List.nodup_append] at h
    obtain ⟨-, hnodup, hdisjoint⟩ := h
    have hleft : (current.filter fun e => !k.uses current e.1) =
        current.filter fun e => !k.uses extras e.1 :=
      List.filter_congr fun e _ => by rw [uses, uses, Extras.given?_congr hk]
    have hfilter : ((current.filter fun e => !k.uses extras e.1).filter fun e =>
        !knobs.any (·.uses extras e.1)) =
          current.filter fun e => !(k :: knobs).any (·.uses extras e.1) := by
      rw [List.filter_filter]
      exact List.filter_congr fun e _ => by rw [List.any_cons, Bool.not_or, Bool.and_comm]
    rw [List.foldlM_cons, List.foldlM_cons]
    dsimp only
    rw [use_eq, Extras.value?_congr hk, hleft, ← hfilter]
    cases k.turnBy (extras.value? k.names) s with
    | error e => rfl
    | ok s =>
      -- A name of a later knob is none of this one, so it has not been taken out.
      refine ih hnodup ?_ s
      intro other hother name hname
      rw [← hagree other (List.mem_cons_of_mem k hother) name hname]
      refine Text.lookup_filter (q := fun name => !k.uses extras name) ?_ current
      rw [uses_eq_false, Bool.not_false]
      intro hmem
      exact hdisjoint name hmem name (List.mem_flatMap.mpr ⟨other, hother, hname⟩) rfl

end Knob

theorem Extras.apply_eq (s : Settings) (extras : Extras) :
    extras.apply s =
      (Knob.all.foldlM (fun s (k : Knob) => k.turnBy (extras.value? k.names) s) s).map
        (·, extras.filter fun e => !Knob.all.any (·.uses extras e.1)) :=
  Knob.foldlM_use (by decide) (fun _ _ _ _ => rfl) s

end ChatMarkup.Cli
