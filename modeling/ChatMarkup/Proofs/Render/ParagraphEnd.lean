import ChatMarkup.Proofs.Escape.Literal
import ChatMarkup.Proofs.Render.Parts
import ChatMarkup.Proofs.Text.Occurs

namespace ChatMarkup

theorem escapeLiteral_eq_nil_iff {t : Text} : escapeLiteral t = [] ↔ t = [] := by
  cases t with
  | nil => simp [escapeLiteral]
  | cons c t => cases hc : isReserved c <;> simp [escapeLiteral, escapeChar, hc]

theorem getLast?_filterMap {α β : Type} (f : α → Option β) (l : List α) :
    (l.filterMap f).getLast? = (l.filter fun a => (f a).isSome).getLast?.bind f := by
  induction l using List.reverseRecOn with
  | nil => rfl
  | append_singleton l a ih =>
    rw [List.filterMap_append, List.filter_append]
    cases ha : f a with
    | none =>
      simp [ha, ih]
    | some b => simp [ha]

namespace Document

variable {d : Document}

def paragraphEnd (d : Document) (id : d.Id) : Text :=
  if (d.parent? id).any (d.kind · == .listItem) then ['\n'] else ['\n', '\n']

/-- Whether the last text that a visit hands to the output is empty: that of a heading without
text, of a quote without anything but spaces, of empty HTML and of a table without cells. -/
def Visit.endsBlank (v : d.Visit) : Bool :=
  match d.node v.id with
  | .heading _ literal => v.entering && literal.isEmpty
  | .blockQuote literal => literal.all (· == ' ')
  | .htmlSpan literal => literal.isEmpty
  | .table => (d.grid? v.id).isNone
  | _ => false

end Document

namespace Pass

variable {d : Document} {o : Options} {p q : Pass d} {v : d.Visit} {t : Text}

theorem unlessEmpty_eq_some {w : Text} (h : unlessEmpty t = some w) : w = t ∧ w ≠ [] := by
  rw [unlessEmpty] at h
  split_ifs at h with hempty
  cases h
  exact ⟨rfl, fun e => hempty (List.isEmpty_iff.mpr e)⟩

theorem eq_nil_iff_endsBlank (h : p.lastWritten? o v.id v.entering = some t) :
    t = [] ↔ v.endsBlank = true := by
  rw [lastWritten?] at h
  rw [Document.Visit.endsBlank]
  cases hn : d.node v.id with
  | text literal =>
    rw [hn] at h
    simp [(unlessEmpty_eq_some h).2]
  | paragraph =>
    rw [hn] at h
    simp [(unlessEmpty_eq_some h).2]
  | heading level literal =>
    rw [hn] at h
    cases h
    cases v.entering <;> simp [escapeLiteral_eq_nil_iff]
  | blockQuote literal =>
    rw [hn] at h
    dsimp only at h
    split_ifs at h
    cases h
    rw [dropWhile_escapeLiteral (by decide), escapeLiteral_eq_nil_iff]
    simp
  | htmlSpan literal =>
    rw [hn] at h
    cases h
    simp
  | table =>
    rw [hn] at h
    dsimp only at h
    split_ifs at h
    cases h
    simp [Document.renderTable_eq_nil_iff]
  | listItem ordered bullet =>
    rw [hn] at h
    dsimp only at h
    split_ifs at h <;> cases h <;> simp
  | list ordered =>
    rw [hn] at h
    dsimp only at h
    split_ifs at h
    cases h
    simp
  | mathBlock literal =>
    rw [hn] at h
    dsimp only at h
    split_ifs at h
    cases h
    simp
  | link destination title | image destination title =>
    rw [hn] at h
    cases h
    split_ifs <;> simp
  | emph | strong | del | code literal | codeBlock literal info | htmlBlock literal | math literal =>
    rw [hn] at h
    cases h
    simp
  | _ =>
    rw [hn] at h
    cases h

/-- A visit that hands nothing to the output writes nothing, and what it hands to the output last is
the end of what it writes. -/
theorem written_cases (p : Pass d) (o : Options) (id : d.Id) (entering : Bool) :
    (p.lastWritten? o id entering = none ∧ p.written o id entering = []) ∨
      ∃ t, p.lastWritten? o id entering = some t ∧ t <:+ p.written o id entering := by
  have hpiece : ∀ t, (unlessEmpty t = none ∧ t = []) ∨ ∃ w, unlessEmpty t = some w ∧ w <:+ t := by
    intro t
    rw [unlessEmpty]
    split_ifs with hempty
    · exact Or.inl ⟨rfl, List.isEmpty_iff.mp hempty⟩
    · exact Or.inr ⟨t, rfl, List.suffix_refl t⟩
  unfold lastWritten? written piece
  cases hn : d.node id with
  | text literal => exact hpiece _
  | paragraph => exact hpiece _
  | emph | strong | del | htmlSpan literal => exact Or.inr ⟨_, rfl, List.suffix_refl _⟩
  | code literal | codeBlock literal info | htmlBlock literal | math literal =>
    exact Or.inr ⟨_, rfl, List.suffix_append _ _⟩
  | link destination title | image destination title =>
    refine Or.inr ⟨_, rfl, ?_⟩
    cases entering with
    | true => exact List.suffix_refl _
    | false => exact List.suffix_append _ _
  | heading level literal =>
    refine Or.inr ⟨_, rfl, ?_⟩
    cases entering with
    | true => exact List.suffix_append _ _
    | false => exact List.suffix_append _ _
  | list ordered =>
    cases entering with
    | true => exact Or.inl ⟨rfl, rfl⟩
    | false => exact Or.inr ⟨_, rfl, List.suffix_refl _⟩
  | listItem ordered bullet =>
    cases entering with
    | true => exact Or.inr ⟨_, rfl, List.suffix_append _ _⟩
    | false => exact Or.inl ⟨rfl, rfl⟩
  | blockQuote literal =>
    cases entering with
    | true => exact Or.inr ⟨_, rfl, List.suffix_append _ _⟩
    | false => exact Or.inl ⟨rfl, rfl⟩
  | table =>
    dsimp only
    split_ifs
    · exact Or.inl ⟨rfl, rfl⟩
    · exact Or.inr ⟨_, rfl, List.suffix_refl _⟩
  | mathBlock literal =>
    dsimp only
    rw [mathBlockPiece]
    split_ifs
    · exact Or.inl ⟨rfl, rfl⟩
    · exact Or.inr ⟨_, rfl, List.suffix_append _ _⟩
  | _ => exact Or.inl ⟨rfl, rfl⟩

theorem node_eq_paragraph {id : d.Id} (hk : d.kind id = .paragraph) : d.node id = .paragraph := by
  rw [Document.kind] at hk
  cases hn : d.node id <;> first | rfl | rw [hn] at hk; cases hk

theorem paragraphPiece_exit (p : Pass d) (id : d.Id) :
    p.paragraphPiece id false = if 0 < p.lastWrite then d.paragraphEnd id else [] := by
  rw [paragraphPiece, if_neg Bool.false_ne_true, item?, Option.isSome_filter, Document.paragraphEnd]

theorem Effect.out_ne_nil {id : d.Id} {entering : Bool} (h : Effect p o id entering q)
    (hp : 0 < p.lastWrite → p.out.toList ≠ []) (hq : 0 < q.lastWrite) : q.out.toList ≠ [] := by
  rw [h.lastWrite] at hq
  rw [h.out]
  obtain ⟨hlast, hwritten⟩ | ⟨t, hlast, hsuffix⟩ := written_cases p o id entering
  · rw [hlast] at hq
    rw [hwritten, List.append_nil]
    exact hp hq
  · rw [hlast] at hq
    have ht : t ≠ [] := Text.utf8Length_pos_iff.mp hq
    intro hnil
    rw [List.append_eq_nil_iff] at hnil
    rw [hnil.2] at hsuffix
    exact ht (List.suffix_nil.mp hsuffix)

/-- A visit without a blank end leaves the length of the last write positive once anything has been
written. -/
theorem Effect.lastWrite_pos (h : Effect p o v.id v.entering q) (hblank : v.endsBlank = false)
    (hp : p.out.toList ≠ [] → 0 < p.lastWrite) (hq : q.out.toList ≠ []) : 0 < q.lastWrite := by
  rw [h.out] at hq
  rw [h.lastWrite]
  obtain ⟨hlast, hwritten⟩ | ⟨t, hlast, -⟩ := written_cases p o v.id v.entering
  · rw [hwritten, List.append_nil] at hq
    rw [hlast]
    exact hp hq
  · have ht : t ≠ [] := by
      intro hnil
      rw [(eq_nil_iff_endsBlank hlast).mp hnil] at hblank
      cases hblank
    rw [hlast]
    exact Text.utf8Length_pos_iff.mpr ht

end Pass

variable {d : Document} {o : Options} {out : String} {first last : List (Pass.Step d)}
  {t : Pass.Step d}

theorem out_ne_nil_of_lastWrite (h : render d o = .ok out) :
    ∀ s ∈ d.steps o, 0 < s.before.lastWrite → s.before.out.toList ≠ [] := by
  refine forall_mem_steps h (I := fun p _ => 0 < p.lastWrite → p.out.toList ≠ [])
    (motive := fun _ p _ => 0 < p.lastWrite → p.out.toList ≠ []) ?_ (fun hpos => by cases hpos)
  intro p q v visits hp heffect
  exact ⟨hp, heffect.out_ne_nil hp⟩

/-- The length of the last write is positive exactly if the last visit to write does not end with an
empty write. -/
theorem lastWrite_pos_iff (h : render d o = .ok out) (hsteps : d.steps o = first ++ t :: last) :
    0 < t.before.lastWrite ↔
      ∃ s ∈ (first.filter (·.writes o)).getLast?, s.visit.endsBlank = false := by
  have hchain := Pass.isChain_history o (d.visits Pass.isTable) {}
  have hstart : ∀ s ∈ (d.steps o).head?, s.before = {} :=
    fun s hs => Pass.before_of_mem_head?_history hs
  rw [← Document.steps, hsteps] at hchain
  rw [hsteps] at hstart
  have hset : ∀ s ∈ first, s.after.lastWrite =
      ((s.before.lastWritten? o s.visit.id s.visit.entering).map Text.utf8Length).getD
        s.before.lastWrite := by
    intro s hs
    exact (effect_of_mem_steps h s (by rw [hsteps]; exact List.mem_append_left _ hs)).lastWrite
  rw [Pass.part_of_isChain hchain hstart hset, getLast?_filterMap]
  simp only [Option.isSome_map]
  change 0 < (((first.filter (·.writes o)).getLast?).bind _).getD 0 ↔ _
  cases hlast : (first.filter (·.writes o)).getLast? with
  | none => simp
  | some s =>
    have hwrites : s.writes o = true :=
      (List.mem_filter.mp (List.mem_of_getLast? hlast)).2
    obtain ⟨w, hw⟩ := Option.isSome_iff_exists.mp hwrites
    have hblank := Pass.eq_nil_iff_endsBlank hw
    rw [Option.bind_some, hw]
    change 0 < Text.utf8Length w ↔ _
    rw [Text.utf8Length_pos_iff, ne_eq, hblank]
    simp

/-- A paragraph is ended by one line break in a list item and by two elsewhere, exactly if the last
visit before its end that writes anything does not end with an empty write; otherwise, and so as long
as the output is empty, nothing is written. -/
theorem paragraph_is_ended_iff (d : Document) (o : Options) {out : String}
    (h : render d o = .ok out) {first last : List (Pass.Step d)} {t : Pass.Step d}
    (hsteps : d.steps o = first ++ t :: last) (hk : d.kind t.visit.id = .paragraph)
    (hexit : t.visit.entering = false) :
    (t.after.out.toList = t.before.out.toList ++ d.paragraphEnd t.visit.id ↔
      ∃ s ∈ (first.filter (·.writes o)).getLast?, s.visit.endsBlank = false) ∧
    (t.after.out.toList = t.before.out.toList ++ d.paragraphEnd t.visit.id ∨
      t.after.out = t.before.out) ∧
    (t.before.out = "" → t.after.out = "") := by
  have ht : t ∈ d.steps o := by
    rw [hsteps]
    exact List.mem_append_right _ List.mem_cons_self
  have hlast := lastWrite_pos_iff h hsteps
  have hempty := out_ne_nil_of_lastWrite h t ht
  have hout := (effect_of_mem_steps h t ht).out
  have hn := Pass.node_eq_paragraph hk
  have hpiece : t.before.written o t.visit.id t.visit.entering =
      if 0 < t.before.lastWrite then d.paragraphEnd t.visit.id else [] := by
    rw [hexit, Pass.written, hn, ← Pass.paragraphPiece_exit, Pass.piece, hn]
  rw [hpiece] at hout
  have hne : d.paragraphEnd t.visit.id ≠ [] := by
    rw [Document.paragraphEnd]
    split_ifs <;> simp
  by_cases hpos : 0 < t.before.lastWrite
  · rw [if_pos hpos] at hout
    refine ⟨⟨fun _ => hlast.mp hpos, fun _ => hout⟩, Or.inl hout, ?_⟩
    intro hnil
    exact absurd (by rw [hnil]; rfl) (hempty hpos)
  · rw [if_neg hpos, List.append_nil] at hout
    have hsame : t.after.out = t.before.out := String.toList_injective hout
    refine ⟨⟨?_, fun hex => absurd (hlast.mpr hex) hpos⟩, Or.inr hsame, ?_⟩
    · intro hended
      rw [hout] at hended
      exact absurd (List.self_eq_append_right.mp hended) hne
    · intro hnil
      rw [hsame, hnil]

/-- The quote ends with an empty write, but the run of text after it does not. -/
theorem paragraph_is_ended_in_quote :
    let d := Document.ofTrees [.node (.blockQuote []) [.node .paragraph [.node (.text ['a']) []]]]
    render d {} = .ok ">a\n\n" ∧ ∃ first t last, d.steps {} = first ++ t :: last ∧
      d.kind t.visit.id = .paragraph ∧ t.visit.entering = false ∧
      t.after.out.toList = t.before.out.toList ++ ['\n', '\n'] := by
  intro d
  have h : render d {} = .ok ">a\n\n" := by decide +kernel
  have hsteps : d.steps {} = (d.steps {}).take 4 ++
      (d.steps {}).get ⟨4, by decide +kernel⟩ :: (d.steps {}).drop 5 := by simp
  have hk : d.kind ((d.steps {}).get ⟨4, by decide +kernel⟩).visit.id = .paragraph := by
    decide +kernel
  have hexit : ((d.steps {}).get ⟨4, by decide +kernel⟩).visit.entering = false := by
    decide +kernel
  have hwriter : ∃ s ∈ (((d.steps {}).take 4).filter (·.writes {})).getLast?,
      s.visit.endsBlank = false := by
    have hany : ((((d.steps {}).take 4).filter (·.writes {})).getLast?.any
        (!·.visit.endsBlank)) = true := by
      decide +kernel
    simpa [Option.any_eq_true] using hany
  refine ⟨h, _, _, _, hsteps, hk, hexit, ?_⟩
  rw [(paragraph_is_ended_iff d {} h hsteps hk hexit).1.mpr hwriter]
  apply congrArg
  decide +kernel

/-- A formula block that is left out leaves the empty write of its quote in place, so the paragraph
around it is not ended and the next one starts on the line of the quote. -/
theorem paragraph_is_not_ended_after_blank_quote :
    let d := Document.ofTrees [
      .node (.blockQuote []) [.node .paragraph
        [.node (.mathBlock "\\frac\x7ba\x7d\x7bb\x7d".toList) []]],
      .node .paragraph [.node (.text ['a']) []]]
    render d {} = .ok ">a\n\n" ∧ ∃ first t last, d.steps {} = first ++ t :: last ∧
      d.kind t.visit.id = .paragraph ∧ t.visit.entering = false ∧
      t.before.out = ">" ∧ t.after.out = ">" := by
  intro d
  have hsteps : d.steps {} = (d.steps {}).take 4 ++
      (d.steps {}).get ⟨4, by decide +kernel⟩ :: (d.steps {}).drop 5 := by simp
  refine ⟨?_, _, _, _, hsteps, ?_, ?_, ?_, ?_⟩ <;> decide +kernel

end ChatMarkup
