import ChatMarkup.Document.Tree
import ChatMarkup.Proofs.Escape.Bare
import ChatMarkup.Proofs.Render.Rendering

namespace ChatMarkup

theorem prefix_escapeChar_iff (before tail : Text) (escaped : Bool) :
    before ++ ['\\', '.'] <+: before ++ (escapeChar escaped '.' ++ tail) ↔ escaped = true := by
  rw [List.prefix_append_right_inj]
  cases escaped <;> simp [escapeChar]

namespace Pass

variable {d : Document} {o : Options} {p : Pass d}

theorem eq_of_textPiece_eq_nil {literal : Text} (h : p.textPiece literal = []) :
    literal = [] ∨ literal = ['\n'] := by
  have hback := unescape_escapeRun literal p.lastText
  rw [textPiece] at h
  split_ifs at h with hbreak
  · have hrun : escapeRun literal p.lastText = ['\n'] := by simp_all
    rw [hrun] at hback
    exact Or.inr hback.symm
  · rw [collapseWhitespace_eq_nil_iff.mp h] at hback
    exact Or.inl hback.symm

theorem isNumber_of_textPiece_eq_nil {literal : Text} (h : p.textPiece literal = []) :
    Text.isNumber literal = false := by
  obtain rfl | rfl := eq_of_textPiece_eq_nil h
  · rfl
  · decide

theorem exists_textPiece_period (p : Pass d) (rest : Text) :
    ∃ tail, p.textPiece ('.' :: rest) =
      escapeChar (Text.isNumber p.lastText) '.' ++ tail := by
  have hperiod : isBlank '.' = false := by decide
  have hbackslash : isBlank '\\' = false := by decide
  have hescaped : ∀ number, escapedAfter number '.' = number := by decide
  have hrun : escapeRun ('.' :: rest) p.lastText =
      escapeChar (Text.isNumber p.lastText) '.' ++ escapeRunFrom false false rest := by
    rw [escapeRun, escapeRunFrom, hescaped]
    rfl
  rw [textPiece, hrun]
  rw [if_neg (by cases Text.isNumber p.lastText <;> simp [escapeChar])]
  cases Text.isNumber p.lastText with
  | true =>
    change ∃ tail, collapseFrom false ('\\' :: '.' :: escapeRunFrom false false rest) = _
    rw [collapseFrom_cons_of_not_isBlank hbackslash, collapseFrom_cons_of_not_isBlank hperiod]
    exact ⟨_, rfl⟩
  | false =>
    change ∃ tail, collapseFrom false ('.' :: escapeRunFrom false false rest) = _
    rw [collapseFrom_cons_of_not_isBlank hperiod]
    exact ⟨_, rfl⟩

theorem lastText_of_isChain {between last : List (Step d)} {u t : Step d}
    (hchain : (u :: (between ++ t :: last)).IsChain fun s s' => s'.before = s.after)
    (heffect : ∀ s ∈ between, Effect s.before o s.visit.id s.visit.entering s.after) :
    t.before.lastText = (between.filterMap (·.visit.text?)).getLast?.getD u.after.lastText := by
  obtain ⟨hnext, hchain⟩ := List.isChain_cons.mp hchain
  exact part_of_isChain hchain hnext fun s hs => (heffect s hs).lastText

/-- The period that opens a run is escaped exactly if the last run before it is a number. -/
theorem Effect.period_iff {id : d.Id} {entering : Bool} {q : Pass d} {rest : Text}
    (h : Effect p o id entering q) (hn : d.node id = .text ('.' :: rest)) :
    p.out.toList ++ ['\\', '.'] <+: q.out.toList ↔ Text.isNumber p.lastText = true := by
  have hwritten : p.written o id entering = p.textPiece ('.' :: rest) := by
    rw [written, piece, hn]
  obtain ⟨tail, htail⟩ := exists_textPiece_period p rest
  rw [h.out, hwritten, htail, prefix_escapeChar_iff]

theorem Effect.isNumber_eq_false {id : d.Id} {entering : Bool} {q : Pass d} {literal : Text}
    (h : Effect p o id entering q) (hn : d.node id = .text literal) (hout : q.out = p.out) :
    Text.isNumber literal = false := by
  have hpiece := h.out
  rw [hout, written, piece, hn] at hpiece
  exact isNumber_of_textPiece_eq_nil (List.self_eq_append_right.mp hpiece)

end Pass

theorem eq_take_append_cons_cons_cons {α : Type} (n : Nat) (l : List α) (h : n + 2 < l.length) :
    l = l.take n ++ l.get ⟨n, by omega⟩ ::
      ([l.get ⟨n + 1, by omega⟩] ++ l.get ⟨n + 2, h⟩ :: l.drop (n + 3)) := by
  simp

/-- The period that opens a run after a number is escaped exactly if no other run was visited
between the two: a run that writes nothing makes the rendering forget the number. -/
theorem period_is_escaped_iff (d : Document) (o : Options) {out : String}
    (h : render d o = .ok out) {first between last : List (Pass.Step d)} {u t : Pass.Step d}
    (hsteps : d.steps o = first ++ u :: (between ++ t :: last)) {number rest : Text}
    (hu : d.node u.visit.id = .text number) (hnumber : Text.isNumber number = true)
    (hsilent : ∀ s ∈ between, d.kind s.visit.id = .text → s.after.out = s.before.out)
    (ht : d.node t.visit.id = .text ('.' :: rest)) :
    t.before.out.toList ++ ['\\', '.'] <+: t.after.out.toList ↔
      ∀ s ∈ between, d.kind s.visit.id ≠ .text := by
  have heffect := effect_of_mem_steps h
  have hchain := Pass.isChain_history o (d.visits Pass.isTable) {}
  rw [← Document.steps, hsteps] at hchain
  rw [hsteps] at heffect
  have hbetween : ∀ s ∈ between, Pass.Effect s.before o s.visit.id s.visit.entering s.after := by
    intro s hs
    exact heffect s (by simp [hs])
  have hunumber : u.after.lastText = number := by
    rw [(heffect u (by simp)).lastText, hu]
    rfl
  have hlast := Pass.lastText_of_isChain hchain.right_of_append hbetween
  rw [(heffect t (by simp)).period_iff ht, hlast, hunumber]
  constructor
  · intro hescaped s hs hk
    have hne : between.filterMap (·.visit.text?) ≠ [] := by
      intro hnil
      have hs' := List.filterMap_eq_nil_iff.mp hnil s hs
      exact Node.text?_eq_none_iff.mp hs' hk
    rw [List.getLast?_eq_some_getLast hne, Option.getD_some] at hescaped
    obtain ⟨s', hs', hliteral⟩ := List.mem_filterMap.mp (List.getLast_mem hne)
    have hn := Node.text?_eq_some_iff.mp hliteral
    have hout := hsilent s' hs' (congrArg Node.kind hn)
    rw [(hbetween s' hs').isNumber_eq_false hn hout] at hescaped
    cases hescaped
  · intro hnone
    have hnil : between.filterMap (·.visit.text?) = [] :=
      List.filterMap_eq_nil_iff.mpr fun s hs => Node.text?_eq_none_iff.mpr (hnone s hs)
    rw [hnil]
    exact hnumber

/-- The end of emphasis between a number and a period is no run of text. -/
theorem period_is_escaped_after_emphasis :
    let d := Document.ofTrees [.node .emph [.node (.text ['1']) []], .node (.text ['.']) []]
    ∃ first u s t last, d.steps {} = first ++ u :: ([s] ++ t :: last) ∧
      d.node u.visit.id = .text ['1'] ∧ d.node t.visit.id = .text ['.'] ∧
      t.before.out.toList ++ ['\\', '.'] <+: t.after.out.toList := by
  intro d
  have h : render d {} = .ok "_1_\\." := by decide +kernel
  have hsteps := eq_take_append_cons_cons_cons 2 (d.steps {}) (by decide +kernel)
  have hu : d.node ((d.steps {}).get ⟨2, by decide +kernel⟩).visit.id = .text ['1'] := by
    decide +kernel
  have ht : d.node ((d.steps {}).get ⟨4, by decide +kernel⟩).visit.id = .text ['.'] := by
    decide +kernel
  have hemph : ∀ s ∈ [(d.steps {}).get ⟨3, by decide +kernel⟩], d.kind s.visit.id ≠ .text := by
    intro s hs
    rw [List.mem_singleton.mp hs]
    decide +kernel
  have hnumber : Text.isNumber ['1'] = true := by decide
  exact ⟨_, _, _, _, _, hsteps, hu, ht, (period_is_escaped_iff d {} h hsteps hu hnumber
    (fun s hs hk => absurd hk (hemph s hs)) ht).mpr hemph⟩

/-- In a list the line break between a number and a period is dropped, and the period stays as it
is. -/
theorem period_is_bare_after_dropped_break :
    let d := Document.ofTrees [.node (.list false) [.node (.listItem false '-')
      [.node .paragraph [.node (.text ['1']) [], .node (.text ['\n']) [],
        .node (.text ['.']) []]]]]
    render d {} = .ok "\\- 1.\n\n" ∧
    ∃ first u s t last, d.steps {} = first ++ u :: ([s] ++ t :: last) ∧
      d.node u.visit.id = .text ['1'] ∧ u.after.out ≠ u.before.out ∧
      d.kind s.visit.id = .text ∧ s.after.out = s.before.out ∧
      d.node t.visit.id = .text ['.'] ∧
      ¬t.before.out.toList ++ ['\\', '.'] <+: t.after.out.toList := by
  intro d
  have h : render d {} = .ok "\\- 1.\n\n" := by decide +kernel
  have hsteps := eq_take_append_cons_cons_cons 4 (d.steps {}) (by decide +kernel)
  refine ⟨h, _, _, _, _, _, hsteps, ?_, ?_, ?_, ?_, ?_, ?_⟩ <;> decide +kernel

end ChatMarkup
