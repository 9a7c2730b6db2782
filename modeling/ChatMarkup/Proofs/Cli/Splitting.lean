import ChatMarkup.Proofs.Cli.Parameters

namespace ChatMarkup.Cli.Extras

variable {arg name value : Text} {args others : List Text} {before? : Option Text} {extras : Extras}

/-- Whether an argument gives the parameter of a name. -/
def Gives (arg name : Text) : Prop :=
  arg = "--extra-".toList ++ name ∨ arg = "--extras-".toList ++ name

def isFlag (arg : Text) : Bool :=
  "--extra-".toList.isPrefixOf arg || "--extras-".toList.isPrefixOf arg

/-- Whether an argument is kept: it is no flag, and no value of a flag right before it. -/
def isKept (before? : Option Text) (arg : Text) : Bool :=
  !isFlag arg && (isHyphenated arg || !before?.any isFlag)

/-- The arguments that are kept, in order; `before?` stands before the first one. -/
def kept (before? : Option Text) (args : List Text) : List Text :=
  let places := (before? :: args.map some).zip args
  (places.filter fun (before?, arg) => isKept before? arg).map Prod.snd

theorem name?_eq_some_iff : name? arg = some name ↔ Gives arg name := by
  rw [name?, Option.or_eq_some_iff, Text.dropFront?_eq_some_iff, Text.dropFront?_eq_some_iff, Gives]
  constructor
  · rintro (h | ⟨-, h⟩)
    · exact Or.inl h
    · exact Or.inr h
  · rintro (h | rfl)
    · exact Or.inl h
    · -- The two beginnings differ in their eighth character, so no flag has both.
      exact Or.inr ⟨rfl, rfl⟩

theorem isFlag_eq (arg : Text) : isFlag arg = (name? arg).isSome := by
  rw [Bool.eq_iff_iff, Option.isSome_iff_exists]
  simp only [name?_eq_some_iff, isFlag, Gives, Bool.or_eq_true, List.isPrefixOf_iff_prefix,
    exists_or]
  exact or_congr (exists_congr fun _ => eq_comm) (exists_congr fun _ => eq_comm)

theorem name?_eq_none_of_not_isHyphenated (h : isHyphenated arg = false) : name? arg = none := by
  cases hname : name? arg with
  | none => rfl
  | some name =>
    rw [isHyphenated_of_name? hname] at h
    cases h

theorem kept_cons (before? : Option Text) (arg : Text) (args : List Text) :
    kept before? (arg :: args) =
      (if isKept before? arg then [arg] else []) ++ kept (some arg) args := by
  rw [kept, List.map_cons, List.zip_cons_cons, List.filter_cons, kept]
  split_ifs <;> rfl

theorem kept_eq (h : ∀ flag ∈ before?, isFlag flag = true →
    ∀ first ∈ args.head?, isHyphenated first = true) : kept before? args = kept none args := by
  cases args with
  | nil => rfl
  | cons arg args =>
    have hsame : isKept before? arg = isKept none arg := by
      cases before? with
      | none => rfl
      | some flag =>
        rw [isKept, isKept, Option.any_some]
        cases hflag : isFlag flag with
        | false => rfl
        | true => rw [h flag rfl hflag arg rfl, Bool.true_or, Bool.true_or]
    rw [kept_cons, kept_cons, hsame]

theorem kept_cons_of_none (h : name? arg = none) (args : List Text) :
    kept none (arg :: args) = arg :: kept none args := by
  have hflag : isFlag arg = false := by rw [isFlag_eq, h]; rfl
  rw [kept_cons, if_pos (by simp [isKept, hflag]), kept_eq (by simp [hflag])]
  rfl

theorem kept_cons_of_some (h : name? arg = some name) (args : List Text) :
    kept before? (arg :: args) = kept (some arg) args := by
  have hflag : isFlag arg = true := by rw [isFlag_eq, h]; rfl
  rw [kept_cons, if_neg (by simp [isKept, hflag])]
  rfl

theorem kept_cons_of_value (h : isFlag arg = true) (hvalue : isHyphenated value = false)
    (args : List Text) : kept (some arg) (value :: args) = kept none args := by
  have hflag : isFlag value = false := by
    rw [isFlag_eq, name?_eq_none_of_not_isHyphenated hvalue]
    rfl
  rw [kept_cons, if_neg (by simp [isKept, h, hvalue]), kept_eq (by simp [hflag])]
  rfl

/-- An argument is kept unless it is a flag, or the value right behind one. -/
theorem fst_split (args : List Text) : (split args).1 = kept none args := by
  fun_induction split args with
  | case1 => rfl
  | case2 arg args hn others extras hsplit ih =>
    rw [kept_cons_of_none hn, ← ih, hsplit]
  | case3 arg flag hn =>
    rw [kept_cons_of_some hn]
    rfl
  | case4 arg flag hn value rest hv others extras hsplit ih =>
    rw [kept_cons_of_some hn, kept_eq (by simp [hv]), ← ih, hsplit]
  | case5 arg flag hn value rest hv others extras hsplit ih =>
    have hflag : isFlag arg = true := by rw [isFlag_eq, hn]; rfl
    rw [kept_cons_of_some hn, kept_cons_of_value hflag (by simpa using hv), ← ih, hsplit]

theorem kept_append (h : ∀ first ∈ others.head?, isHyphenated first = true) :
    kept before? (args ++ others) = kept before? args ++ kept none others := by
  induction args generalizing before? with
  | nil => exact kept_eq fun _ _ _ => h
  | cons arg args ih =>
    rw [List.cons_append, kept_cons, kept_cons, ih, List.append_assoc]

theorem split_of_forall (h : ∀ arg ∈ args, name? arg = none) : split args = (args, []) := by
  induction args with
  | nil => rfl
  | cons arg args ih =>
    rw [split_cons_of_not_flag (h arg List.mem_cons_self),
      ih fun other hother => h other (List.mem_cons_of_mem arg hother)]

theorem name?_of_mem_kept (h : arg ∈ kept before? args) : name? arg = none := by
  rw [kept, List.mem_map] at h
  obtain ⟨⟨before, arg⟩, hmem, rfl⟩ := h
  have hkept := (List.mem_filter.mp hmem).2
  simp only [isKept, isFlag_eq, Bool.and_eq_true, Bool.not_eq_true', Option.isSome_eq_false_iff,
    Option.isNone_iff_eq_none] at hkept
  exact hkept.1

theorem occurrences_append (h : ∀ first ∈ others.head?, isHyphenated first = true) :
    occurrences (args ++ others) = occurrences args ++ occurrences others := by
  induction args with
  | nil => rfl
  | cons arg args ih =>
    have hvalue : valueBefore (args ++ others) = valueBefore args := by
      cases args with
      | cons value args => rfl
      | nil =>
        cases others with
        | nil => rfl
        | cons first others => exact if_pos (h first rfl)
    rw [List.cons_append, occurrences, occurrences, ih, hvalue, List.append_assoc]

theorem last?_append (h : ∀ first ∈ others.head?, isHyphenated first = true) (name : Text) :
    last? (args ++ others) name = (last? others name).or (last? args name) := by
  rw [last?, occurrences_append h, List.reverse_append, List.lookup_append, last?, last?]

theorem last?_cons_eq_ite (arg : Text) (args : List Text) (name : Text) :
    last? (arg :: args) name = (last? args name).or
      (if name? arg = some name then some (valueBefore args) else none) := by
  rw [last?_cons]
  cases name? arg with
  | none => rfl
  | some other =>
    rw [Option.map_some, Option.toList_some, lookup_cons, List.lookup_nil]
    simp only [Option.some.injEq, eq_comm]

theorem last?_eq_none_iff : last? args name = none ↔ ∀ arg ∈ args, ¬Gives arg name := by
  induction args with
  | nil => exact iff_of_true rfl (List.forall_mem_nil _)
  | cons arg args ih =>
    rw [last?_cons_eq_ite, Option.or_eq_none_iff, ih, List.forall_mem_cons, and_comm,
      ← name?_eq_some_iff, ite_eq_right_iff]
    simp

theorem last?_eq_some_iff : last? args name = some value ↔ ∃ before flag after,
    args = before ++ flag :: after ∧ Gives flag name ∧ (∀ other ∈ after, ¬Gives other name) ∧
      value = valueBefore after := by
  induction args with
  | nil => simp [last?, occurrences]
  | cons arg args ih =>
    have hfirst : (if name? arg = some name then some (valueBefore args) else none) = some value ↔
        Gives arg name ∧ value = valueBefore args := by
      rw [← name?_eq_some_iff, Option.ite_none_right_eq_some, Option.some.injEq, @eq_comm _ value]
    rw [last?_cons_eq_ite, Option.or_eq_some_iff, ih, hfirst, last?_eq_none_iff]
    constructor
    · rintro (⟨before, flag, after, rfl, hrest⟩ | ⟨hnone, hgives, hvalue⟩)
      · exact ⟨arg :: before, flag, after, rfl, hrest⟩
      · exact ⟨[], arg, args, rfl, hgives, hnone, hvalue⟩
    · rintro ⟨before, flag, after, hargs, hgives, hnone, hvalue⟩
      cases before with
      | nil =>
        cases hargs
        exact Or.inr ⟨hnone, hgives, hvalue⟩
      | cons first before =>
        cases hargs
        exact Or.inl ⟨before, flag, after, rfl, hgives, hnone, hvalue⟩

theorem nodup_add (h : (extras.map Prod.fst).Nodup) (name value : Text) :
    ((add name value extras).map Prod.fst).Nodup := by
  rw [add]
  split_ifs with hlater
  · exact h
  · rw [Option.not_isSome_iff_eq_none, List.lookup_eq_none_iff] at hlater
    rw [List.map_cons, List.nodup_cons]
    refine ⟨fun hmem => ?_, h⟩
    obtain ⟨entry, hentry, hname⟩ := List.mem_map.mp hmem
    simpa [hname] using hlater entry hentry

theorem nodup_split (args : List Text) : ((split args).2.map Prod.fst).Nodup := by
  fun_induction split args with
  | case1 => exact List.nodup_nil
  | case2 arg args hn others extras hsplit ih => rwa [hsplit] at ih
  | case3 arg flag hn => exact List.pairwise_singleton _ flag
  | case4 arg flag hn value rest hv others extras hsplit ih =>
    rw [hsplit] at ih
    exact nodup_add ih _ _
  | case5 arg flag hn value rest hv others extras hsplit ih =>
    rw [hsplit] at ih
    exact nodup_add ih _ _

theorem mem_map_fst_iff : name ∈ extras.map Prod.fst ↔ (List.lookup name extras).isSome = true := by
  induction extras with
  | nil => simp
  | cons entry extras ih =>
    obtain ⟨other, value⟩ := entry
    rw [List.map_cons, List.mem_cons, ih, lookup_cons]
    split_ifs with h <;> simp [h]

/-- Each argument is kept or taken out by its own look and that of the argument before it. The
parameters are those of the flags, each once, with the value at its last flag. What is kept gives no
more parameters, and before an argument with a hyphen the arguments may be cut. -/
theorem split_is_local (args : List Text) :
    (split args).1 = kept none args ∧
    ((split args).2.map Prod.fst).Nodup ∧
    (∀ name, name ∈ (split args).2.map Prod.fst ↔ ∃ arg ∈ args, Gives arg name) ∧
    (∀ name value, List.lookup name (split args).2 = some value ↔ ∃ before flag after,
      args = before ++ flag :: after ∧ Gives flag name ∧ (∀ other ∈ after, ¬Gives other name) ∧
        value = valueBefore after) ∧
    split (split args).1 = ((split args).1, []) ∧
    ∀ others, (∀ first ∈ others.head?, isHyphenated first = true) →
      (split (args ++ others)).1 = (split args).1 ++ (split others).1 ∧
      ∀ name, List.lookup name (split (args ++ others)).2 =
        (List.lookup name (split others).2).or (List.lookup name (split args).2) := by
  refine ⟨fst_split args, nodup_split args, fun name => ?_, fun name value => ?_, ?_,
    fun others h => ⟨?_, fun name => ?_⟩⟩
  · rw [mem_map_fst_iff, lookup_split, ← Option.ne_none_iff_isSome, Ne, last?_eq_none_iff]
    simp only [not_forall, not_not, exists_prop]
  · rw [lookup_split, last?_eq_some_iff]
  · rw [fst_split]
    exact split_of_forall fun arg => name?_of_mem_kept
  · rw [fst_split, fst_split, fst_split, kept_append h]
  · rw [lookup_split, lookup_split, lookup_split, last?_append h]

/-- An argument behind a value, a lone hyphen behind a flag, and a cut between two flags. -/
theorem split_is_local_between_flags :
    let args := ["--extra-a", "1", "2", "--extras-b", "-", "--extra-a"].map String.toList
    let others := ["--extras-b", "3", "--extra-"].map String.toList
    (∀ first ∈ others.head?, isHyphenated first = true) ∧
      (split (args ++ others)).1 = ["2", "-"].map String.toList ∧
      List.lookup "a".toList (split (args ++ others)).2 = some "true".toList ∧
      List.lookup "b".toList (split (args ++ others)).2 = some "3".toList := by
  intro args others
  have hothers : ∀ first ∈ others.head?, isHyphenated first = true := by decide +kernel
  obtain ⟨hkept, -, -, -, -, hcut⟩ := split_is_local args
  obtain ⟨happend, hlookup⟩ := hcut others hothers
  refine ⟨hothers, ?_, ?_, ?_⟩
  · rw [happend, hkept]
    decide +kernel
  · rw [hlookup]
    decide +kernel
  · rw [hlookup]
    decide +kernel

end ChatMarkup.Cli.Extras
