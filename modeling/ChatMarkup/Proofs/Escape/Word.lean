import ChatMarkup.Proofs.Escape.Literal
import Mathlib.Data.List.DropRight

namespace ChatMarkup

/-- The end of a text that has no white space in it, as far as it goes back. -/
def lastWord (t : Text) : Text := t.rtakeWhile (!isBlank ·)

/-- What a period behind the part `t` of a run is judged by; `last` is the run before it. -/
def preceding (t last : Text) : Text := if t = [] then last else lastWord t

theorem suffix_lastWord_iff {w t : Text} :
    w <:+ lastWord t ↔ w <:+ t ∧ ∀ c ∈ w, isBlank c = false := by
  constructor
  · intro h
    refine ⟨h.trans (List.rtakeWhile_suffix _ t), fun c hc => ?_⟩
    simpa using List.mem_rtakeWhile_imp (h.subset hc)
  · rintro ⟨⟨front, rfl⟩, hword⟩
    have hreverse : ∀ c ∈ w.reverse, (!isBlank c) = true := by simpa using hword
    rw [lastWord, List.rtakeWhile, List.reverse_append, List.takeWhile_append_of_pos hreverse,
      List.reverse_append, List.reverse_reverse]
    exact List.suffix_append _ w

theorem lastWord_concat_of_isBlank {c : Char} (h : isBlank c = true) (t : Text) :
    lastWord (t ++ [c]) = [] := List.rtakeWhile_concat_neg _ _ c (by simp [h])

theorem lastWord_concat_of_not_isBlank {c : Char} (h : isBlank c = false) (t : Text) :
    lastWord (t ++ [c]) = lastWord t ++ [c] := List.rtakeWhile_concat_pos _ _ c (by simp [h])

theorem preceding_concat (t last : Text) (c : Char) :
    preceding (t ++ [c]) last = lastWord (t ++ [c]) := if_neg (by simp)

theorem isNumber_concat (w : Text) (c : Char) :
    Text.isNumber (w ++ [c]) = (c.isDigit && (w.isEmpty || Text.isNumber w)) := by
  cases w with
  | nil => simp [Text.isNumber]
  | cons a w => simp [Text.isNumber, Bool.and_comm, Bool.and_left_comm]

/-- The scan keeps of what it has read whether the word at its end is empty and whether it is a
number. At the front of the run the word is empty, and the number is the run before. -/
theorem escapeRun_append (u v last : Text) :
    escapeRun (u ++ v) last =
      escapeRun u last ++
        escapeRunFrom (Text.isNumber (preceding u last)) (lastWord u).isEmpty v := by
  induction u using List.reverseRecOn generalizing v with
  | nil => rfl
  | append_singleton u c ih =>
    -- The scan of `c` alone and that of `c :: v` start from the same state, the one after `u`.
    have hone := ih [c]
    have hall := ih (c :: v)
    rw [List.append_assoc, List.singleton_append, hall, hone, preceding_concat, List.append_assoc,
      escapeRunFrom, escapeRunFrom]
    by_cases hblank : isBlank c = true
    · rw [if_pos hblank, if_pos hblank, lastWord_concat_of_isBlank hblank]
      rfl
    · have hword : isBlank c = false := by simpa using hblank
      have hnumber : ((lastWord u).isEmpty || Text.isNumber (preceding u last)) =
          ((lastWord u).isEmpty || Text.isNumber (lastWord u)) := by
        unfold preceding
        split_ifs with hempty
        · subst hempty
          rfl
        · rfl
      have hstarted : (lastWord u ++ [c]).isEmpty = false := by simp
      rw [if_neg hblank, if_neg hblank, lastWord_concat_of_not_isBlank hword, isNumber_concat,
        hnumber, hstarted]
      simp [escapeRunFrom]

theorem escapedAfter_eq (number : Bool) (c : Char) :
    escapedAfter number c = if c = '.' then number else isReserved c && c != '!' := by
  unfold escapedAfter
  by_cases hbang : c = '!'
  · subst hbang
    rfl
  · by_cases hperiod : c = '.' <;> simp [hbang, hperiod]

/-- Wherever a character stands in a run, it is escaped by itself, and a period by the word before
it, which is the longest end of what comes before it that has no white space in it. What comes
before it is escaped as if it ended there, and what follows it can be read back. -/
theorem periods_are_escaped_by_word (u v last : Text) (c : Char) :
    (∀ w, w <:+ lastWord u ↔ w <:+ u ∧ ∀ d ∈ w, isBlank d = false) ∧
    ∃ rest, unescape rest = v ∧ escapeRun (u ++ c :: v) last =
      escapeRun u last ++
        (escapeChar (if c = '.' then Text.isNumber (preceding u last)
          else isReserved c && c != '!') c ++ rest) := by
  refine ⟨fun w => suffix_lastWord_iff, ?_⟩
  rw [escapeRun_append, escapeRunFrom, escapedAfter_eq]
  by_cases hblank : isBlank c = true
  · have hplain : isReserved c = false := isReserved_of_isBlank hblank
    have hperiod : c ≠ '.' := by
      rintro rfl
      exact absurd hblank (by decide)
    refine ⟨escapeRunFrom false true v, unescape_escapeRunFrom false true v, ?_⟩
    rw [if_pos hblank, if_neg hperiod, hplain]
    rfl
  · refine ⟨escapeRunFrom (c.isDigit && ((lastWord u).isEmpty || Text.isNumber (preceding u last)))
      false v, unescape_escapeRunFrom _ false v, ?_⟩
    rw [if_neg hblank]

/-- Only the first period stands after a number: the second has a period in its word. -/
example : escapeRun "12.5. (a!)".toList [] = "12\\.5. \\(a!\\)".toList := by decide +kernel

end ChatMarkup
