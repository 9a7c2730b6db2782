namespace ChatMarkup

/-- A text is the list of its Unicode scalar values. -/
abbrev Text := List Char

namespace Text

def utf8Length (t : Text) : Nat := t.foldr (fun c n => c.utf8Size + n) 0

/-- Whether `key` occurs somewhere in the text. -/
def occurs (key : Text) : Text → Bool
  | [] => key.isEmpty
  | c :: t => key.isPrefixOf (c :: t) || occurs key t

/-- What follows `key`, if the text starts with it. -/
def dropFront? : Text → Text → Option Text
  | [], t => some t
  | k :: key, c :: t => if k = c then dropFront? key t else none
  | _ :: _, [] => none

theorem dropFront?_eq_some_iff {key t rest : Text} :
    dropFront? key t = some rest ↔ t = key ++ rest := by
  induction key generalizing t with
  | nil => simp [dropFront?, eq_comm]
  | cons k key ih =>
    cases t with
    | nil => simp [dropFront?]
    | cons c t =>
      by_cases h : k = c
      · simp [dropFront?, h, ih]
      · simp [dropFront?, h, Ne.symm h]

/-- What stands before the first `key` and what follows it. -/
def cut? (key : Text) : Text → Option (Text × Text)
  | [] => (dropFront? key []).map (([], ·))
  | c :: t =>
    match dropFront? key (c :: t) with
    | some rest => some ([], rest)
    | none => (cut? key t).map fun (before, rest) => (c :: before, rest)

theorem cut?_eq_some {key t before rest : Text} (h : cut? key t = some (before, rest)) :
    t = before ++ key ++ rest := by
  induction t generalizing before with
  | nil =>
    simp only [cut?, Option.map_eq_some_iff, Prod.mk.injEq] at h
    obtain ⟨a, ha, rfl, rfl⟩ := h
    simpa using dropFront?_eq_some_iff.mp ha
  | cons c t ih =>
    rw [cut?] at h
    split at h
    · rename_i r hr
      simp only [Option.some.injEq, Prod.mk.injEq] at h
      obtain ⟨rfl, rfl⟩ := h
      simpa using dropFront?_eq_some_iff.mp hr
    · simp only [Option.map_eq_some_iff, Prod.mk.injEq] at h
      obtain ⟨⟨a, b⟩, hab, rfl, rfl⟩ := h
      simpa using ih hab

/-- The parts between the occurrences of `mark`, an empty text having one empty part. -/
def splitAt (mark : Char) : Text → List Text
  | [] => [[]]
  | c :: t =>
    if c = mark then [] :: splitAt mark t
    else
      match splitAt mark t with
      | [] => [[c]]
      | part :: parts => (c :: part) :: parts

/-- The parts with `mark` between them. -/
def join (mark : Text) : List Text → Text
  | [] => []
  | [part] => part
  | part :: parts => part ++ mark ++ join mark parts

theorem join_cons_cons (mark part next : Text) (parts : List Text) :
    join mark (part :: next :: parts) = part ++ mark ++ join mark (next :: parts) := rfl

theorem join_cons_head (mark part : Text) (c : Char) (parts : List Text) :
    join mark ((c :: part) :: parts) = c :: join mark (part :: parts) := by
  cases parts with
  | nil => rfl
  | cons next parts => rfl

theorem splitAt_append_cons {mark : Char} {part : Text} (h : mark ∉ part) (t : Text) :
    splitAt mark (part ++ mark :: t) = part :: splitAt mark t := by
  induction part with
  | nil => rw [List.nil_append, splitAt, if_pos rfl]
  | cons c part ih =>
    rw [List.mem_cons, not_or] at h
    rw [List.cons_append, splitAt, if_neg (Ne.symm h.1), ih h.2]

/-- Parts that each end in the mark are found again, with an empty part at the end. -/
theorem splitAt_flatMap {mark : Char} {parts : List Text} (h : ∀ part ∈ parts, mark ∉ part) :
    splitAt mark (parts.flatMap (· ++ [mark])) = parts ++ [[]] := by
  induction parts with
  | nil => rfl
  | cons part parts ih =>
    have hpart : mark ∉ part := h part List.mem_cons_self
    have hparts : ∀ other ∈ parts, mark ∉ other := fun other hm => h other (List.mem_cons_of_mem _ hm)
    rw [List.flatMap_cons, List.append_assoc, List.singleton_append, splitAt_append_cons hpart,
      ih hparts, List.cons_append]

theorem splitAt_ne_nil (mark : Char) (t : Text) : splitAt mark t ≠ [] := by
  fun_induction splitAt mark t <;> simp

theorem notMem_of_mem_splitAt (mark : Char) (t : Text) :
    ∀ part ∈ splitAt mark t, mark ∉ part := by
  fun_induction splitAt mark t with
  | case1 => simp
  | case2 t ih => simpa using ih
  | case3 c t hc hnil ih => exact absurd hnil (splitAt_ne_nil mark t)
  | case4 c t hc part parts hparts ih =>
    rw [hparts] at ih
    intro other hother
    rw [List.mem_cons] at hother
    rcases hother with rfl | hother
    · rw [List.mem_cons, not_or]
      exact ⟨fun h => hc h.symm, ih part List.mem_cons_self⟩
    · exact ih other (List.mem_cons_of_mem _ hother)

theorem splitAt_of_notMem {mark : Char} {t : Text} (h : mark ∉ t) : splitAt mark t = [t] := by
  induction t with
  | nil => rfl
  | cons c t ih =>
    rw [List.mem_cons, not_or] at h
    rw [splitAt, if_neg (Ne.symm h.1), ih h.2]

theorem splitAt_join {mark : Char} {parts : List Text} (hne : parts ≠ [])
    (h : ∀ part ∈ parts, mark ∉ part) : splitAt mark (join [mark] parts) = parts := by
  induction parts with
  | nil => exact absurd rfl hne
  | cons part parts ih =>
    have hpart : mark ∉ part := h part List.mem_cons_self
    cases parts with
    | nil => exact splitAt_of_notMem hpart
    | cons next parts =>
      have hparts := ih (List.cons_ne_nil _ _) fun other ho => h other (List.mem_cons_of_mem _ ho)
      rw [join_cons_cons, List.append_assoc, List.singleton_append, splitAt_append_cons hpart,
        hparts]

theorem lookup_filter {β : Type} {q : Text → Bool} {key : Text} (h : q key = true)
    (entries : List (Text × β)) :
    List.lookup key (entries.filter fun e => q e.1) = List.lookup key entries := by
  induction entries with
  | nil => rfl
  | cons e entries ih =>
    obtain ⟨other, value⟩ := e
    rw [List.filter_cons, List.lookup_cons]
    split
    · rw [List.lookup_cons, ih]
    next hq =>
      have hne : key ≠ other := fun heq => hq (heq ▸ h)
      rw [ih, beq_false_of_ne hne]

/-- Removes from the end what satisfies `p`. -/
def dropEndWhile (p : Char → Bool) (t : Text) : Text := (t.reverse.dropWhile p).reverse

end Text
end ChatMarkup
