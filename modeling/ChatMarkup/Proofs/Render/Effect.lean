import ChatMarkup.Proofs.Render.Visits

namespace ChatMarkup

def Node.text? : Node → Option Text
  | text literal => some literal
  | _ => none

theorem Node.text?_eq_some_iff {node : Node} {literal : Text} :
    node.text? = some literal ↔ node = .text literal := by
  cases node <;> simp [text?]

theorem Node.text?_eq_none_iff {node : Node} : node.text? = none ↔ node.kind ≠ .text := by
  cases node <;> simp [text?, kind]

def ListNumbering.after (l : ListNumbering) (node : Node) (entering : Bool) : ListNumbering :=
  match node with
  | .list ordered => if entering then l.enter ordered else l.exit
  | .listItem true _ => if entering then l.next.2 else l
  | _ => l

namespace Document

variable {d : Document} {rendered : List d.Id} {id t : d.Id}

def Visit.text? (v : d.Visit) : Option Text := (d.node v.id).text?

/-- The rendered tables after a visit outside of them. -/
def noteTable (d : Document) (rendered : List d.Id) (id : d.Id) : List d.Id :=
  if d.kind id = .table ∧ rendered.contains id = false then id :: rendered else rendered

theorem noteTable_of_ne (hk : d.kind id ≠ .table) : d.noteTable rendered id = rendered :=
  if_neg fun e => hk e.1

theorem noteTable_of_mem (hid : id ∈ rendered) : d.noteTable rendered id = rendered := by
  rw [noteTable, List.contains_iff_mem.mpr hid]
  exact if_neg fun e => Bool.noConfusion e.2

theorem noteTable_of_not_mem (hk : d.kind id = .table) (hid : id ∉ rendered) :
    d.noteTable rendered id = id :: rendered := by
  have hc : rendered.contains id = false := by simpa using hid
  exact if_pos ⟨hk, hc⟩

theorem mem_noteTable (h : t ∈ d.noteTable rendered id) : t ∈ rendered ∨ t = id := by
  rw [noteTable] at h
  split_ifs at h
  · exact (List.mem_cons.mp h).symm
  · exact Or.inl h

end Document

namespace Pass

variable {d : Document} {o : Options} {p q : Pass d} {id : d.Id} {entering : Bool}
  {last : Option Text}

/-- What a visit outside of rendered tables writes. -/
def written (p : Pass d) (o : Options) (id : d.Id) (entering : Bool) : Text :=
  match d.node id with
  | .table => if p.rendered.contains id then [] else d.renderTable id o.table
  | _ => p.piece o id entering

/-- A text that is not written at all when it is empty. -/
def unlessEmpty (t : Text) : Option Text := if t.isEmpty then none else some t

/-- The last text that a visit outside of rendered tables hands to the output, if there is one; it
may be empty. -/
def lastWritten? (p : Pass d) (o : Options) (id : d.Id) (entering : Bool) : Option Text :=
  match d.node id with
  | .text literal => unlessEmpty (p.textPiece literal)
  | .emph => some ['_']
  | .strong => some ['*']
  | .del => some ['~']
  | .link _ _ | .image _ _ => some (if entering then ['['] else [')'])
  | .code _ => some ['\x60']
  | .codeBlock _ _ => some (fence ++ ['\n', '\n'])
  | .heading _ literal => some (if entering then escapeLiteral literal else ['\n', '\n'])
  | .list _ => if entering then none else some ['\n']
  | .listItem ordered bullet =>
    if entering then
      some (if ordered then Text.ofNat p.numbering.next.1 ++ ['\\', '.', ' ']
        else ['\\', bullet, ' '])
    else none
  | .paragraph => unlessEmpty (p.paragraphPiece id entering)
  | .blockQuote literal =>
    if entering then some ((escapeLiteral literal).dropWhile (· == ' ')) else none
  | .htmlSpan literal => some literal
  | .htmlBlock _ => some ['\n', '\n']
  | .table => if p.rendered.contains id then none else some (d.renderTable id o.table)
  | .math _ => some [' ', '\x60']
  | .mathBlock literal => if isSuppressed o literal then none else some ('\n' :: fence)
  | _ => none

/-- What a visit outside of rendered tables does to each part of the pass. -/
structure Effect (p : Pass d) (o : Options) (id : d.Id) (entering : Bool) (q : Pass d) :
    Prop where
  out : q.out.toList = p.out.toList ++ p.written o id entering
  numbering : q.numbering = p.numbering.after (d.node id) entering
  lastText : q.lastText = (d.node id).text?.getD p.lastText
  lastWrite : q.lastWrite =
    ((p.lastWritten? o id entering).map Text.utf8Length).getD p.lastWrite
  rendered : q.rendered = d.noteTable p.rendered id

/-- The pass `q` comes from the pass `p` by writes, the last of them `last`. -/
structure Noted (p : Pass d) (last : Option Text) (q : Pass d) : Prop where
  numbering : q.numbering = p.numbering
  lastText : q.lastText = p.lastText
  lastWrite : q.lastWrite = (last.map Text.utf8Length).getD p.lastWrite

theorem Noted.refl (p : Pass d) : Noted p none p := ⟨rfl, rfl, rfl⟩

theorem Noted.write (h : Noted p last q) (t : Text) : Noted p (some t) (q.write t) :=
  ⟨h.numbering, h.lastText, rfl⟩

theorem noted_write (p : Pass d) (t : Text) : Noted p (some t) (p.write t) :=
  (Noted.refl p).write t

theorem noted_link (p : Pass d) (destination title : Text) (entering : Bool) :
    Noted p (some (if entering then ['['] else [')'])) (p.link destination title entering) := by
  have h := (noted_write p [']', '(']).write (escapeDestination destination)
  cases entering with
  | true => exact noted_write p _
  | false =>
    change Noted p (some [')']) (Pass.write (if title.isEmpty then _ else _) _)
    split_ifs
    · exact h.write _
    · exact (((h.write _).write _).write _).write _

theorem noted_codeBlock (p : Pass d) (literal info : Text) :
    Noted p (some (fence ++ ['\n', '\n'])) (p.codeBlock literal info) := by
  have h := (noted_write p ['\n']).write fence
  unfold codeBlock
  dsimp only
  split_ifs
  · exact ((h.write _).write _).write _
  · exact (((h.write _).write _).write _).write _

theorem noted_heading (p : Pass d) (o : Options) (level : Nat) (literal : Text)
    (entering : Bool) :
    Noted p (some (if entering then escapeLiteral literal else ['\n', '\n']))
      (p.heading o level literal entering) := by
  cases entering with
  | true => exact (((noted_write p _).write _).write _).write _
  | false => exact (noted_write p _).write _

theorem noted_paragraph (p : Pass d) (id : d.Id) (entering : Bool) :
    Noted p (unlessEmpty (p.paragraphPiece id entering)) (p.paragraph id entering) := by
  unfold paragraphPiece paragraph
  split_ifs
  · cases item? id with
    | none => exact Noted.refl p
    | some item =>
      dsimp only
      split_ifs
      · exact noted_write p _
      · exact Noted.refl p
  · exact noted_write p _
  · exact noted_write p _
  · exact Noted.refl p

theorem noted_blockQuote (p : Pass d) (id : d.Id) (literal : Text) :
    Noted p (some ((escapeLiteral literal).dropWhile (· == ' '))) (p.blockQuote id literal) := by
  unfold blockQuote
  dsimp only
  split_ifs
  · exact (noted_write p _).write _
  · exact noted_write p _

theorem noted_mathBlock (p : Pass d) (o : Options) (literal : Text) :
    Noted p (if isSuppressed o literal then none else some ('\n' :: fence))
      (p.mathBlock o literal) := by
  unfold mathBlock isSuppressed
  split_ifs
  · exact Noted.refl p
  · exact ((noted_write p _).write _).write _

theorem text_eq (p : Pass d) (literal : Text) :
    p.text literal =
      if (p.textPiece literal).isEmpty then { p with lastText := literal }
      else { p with lastText := literal }.write (p.textPiece literal) := by
  unfold text textPiece
  dsimp only
  by_cases hbreak : (p.numbering.inList && escapeRun literal p.lastText == ['\n']) = true
  · rw [if_pos hbreak, if_pos hbreak]
    rfl
  · rw [if_neg hbreak, if_neg hbreak]

theorem written_of_ne_table (hk : d.kind id ≠ .table) :
    p.written o id entering = p.piece o id entering := by
  rw [Document.kind] at hk
  unfold written
  cases hn : d.node id with
  | table => exact absurd (by rw [hn]; rfl) hk
  | _ => rfl

theorem Wrote.effect (hw : Wrote p (p.piece o id entering) q) (hk : d.kind id ≠ .table)
    (numbering : q.numbering = p.numbering.after (d.node id) entering)
    (lastText : q.lastText = (d.node id).text?.getD p.lastText)
    (lastWrite : q.lastWrite =
      ((p.lastWritten? o id entering).map Text.utf8Length).getD p.lastWrite) :
    Effect p o id entering q where
  out := by rw [hw.out, written_of_ne_table hk]
  numbering := numbering
  lastText := lastText
  lastWrite := lastWrite
  rendered := by rw [hw.rendered, Document.noteTable_of_ne hk]

theorem Noted.effect (h : Noted p (p.lastWritten? o id entering) q)
    (hw : Wrote p (p.piece o id entering) q) (hk : d.kind id ≠ .table)
    (hn : p.numbering.after (d.node id) entering = p.numbering)
    (ht : (d.node id).text? = none) : Effect p o id entering q := by
  apply hw.effect hk
  · rw [h.numbering, hn]
  · rw [h.lastText, ht]
    rfl
  · exact h.lastWrite

theorem effect_text {literal : Text} (hn : d.node id = .text literal) (hk : d.kind id ≠ .table)
    (hw : Wrote p (p.piece o id entering) (p.text literal)) :
    Effect p o id entering (p.text literal) := by
  apply hw.effect hk
  · rw [hn, text_eq]
    split_ifs <;> rfl
  · rw [hn, text_eq]
    split_ifs <;> rfl
  · rw [lastWritten?, hn, text_eq]
    dsimp only
    rw [unlessEmpty]
    split_ifs <;> rfl

theorem effect_list {ordered : Bool} (hn : d.node id = .list ordered)
    (hk : d.kind id ≠ .table) (hw : Wrote p (p.piece o id entering) (p.list ordered entering)) :
    Effect p o id entering (p.list ordered entering) := by
  apply hw.effect hk
  · rw [hn]
    cases entering <;> rfl
  · rw [hn]
    cases entering <;> rfl
  · rw [lastWritten?, hn]
    cases entering <;> rfl

theorem effect_listItem {ordered : Bool} {bullet : Char}
    (hn : d.node id = .listItem ordered bullet) (hk : d.kind id ≠ .table)
    (hw : Wrote p (p.piece o id true) (p.listItem o ordered bullet)) :
    Effect p o id true (p.listItem o ordered bullet) := by
  apply hw.effect hk
  · rw [hn]
    cases ordered <;> rfl
  · rw [hn]
    cases ordered <;> rfl
  · rw [lastWritten?, hn]
    cases ordered <;> rfl

theorem node_eq_table (hk : d.kind id = .table) : d.node id = .table := by
  rw [Document.kind] at hk
  cases hn : d.node id <;> first | rfl | rw [hn] at hk; cases hk

theorem effect_table (hk : d.kind id = .table) : Effect p o id entering (p.table o id).1 := by
  have hn := node_eq_table hk
  rw [table]
  by_cases hm : id ∈ p.rendered
  · have hc : p.rendered.contains id = true := List.contains_iff_mem.mpr hm
    rw [if_pos hc]
    refine ⟨?_, by rw [hn]; rfl, by rw [hn]; rfl, ?_, ?_⟩
    · simp [written, hn, hm]
    · simp [lastWritten?, hn, hm]
    · exact (Document.noteTable_of_mem hm).symm
  · have hc : ¬p.rendered.contains id = true := fun e => hm (List.contains_iff_mem.mp e)
    rw [if_neg hc]
    refine ⟨?_, by rw [hn]; rfl, by rw [hn]; rfl, ?_, ?_⟩
    · simp [written, hn, hm, out_write]
    · simp [lastWritten?, hn, hm, write]
    · exact (Document.noteTable_of_not_mem hk hm).symm

theorem effect_of_visit {status : Status} (hin : p.insideRendered id = false)
    (hv : visit o id entering p = .ok (q, status)) : Effect p o id entering q := by
  by_cases hk : d.kind id = .table
  · rw [visit_of_table hin hk] at hv
    have hq : Effect p o id entering (p.table o id).1 := effect_table hk
    rw [Except.ok.inj hv] at hq
    exact hq
  cases hr : (d.kind id).isRefused with
  | true =>
    rw [visit_of_refused hin hr] at hv
    cases hv
  | false =>
    obtain ⟨r, hvr, hw⟩ := visit_of_plain (o := o) hin hk hr entering
    rw [hv] at hvr
    cases hvr
    rw [visit_eq_outcome_mark hin] at hv
    unfold mark at hv
    have hkind : d.kind id = (d.node id).kind := rfl
    have hstill : Noted p (p.lastWritten? o id entering) q →
        p.numbering.after (d.node id) entering = p.numbering → (d.node id).text? = none →
        Effect p o id entering q := fun h => h.effect hw hk
    rw [lastWritten?] at hstill
    cases hn : d.node id with
    | text literal =>
      rw [hn] at hv
      cases hv
      exact effect_text hn hk hw
    | list ordered =>
      rw [hn] at hv
      cases hv
      exact effect_list hn hk hw
    | listItem ordered bullet =>
      rw [hn] at hv hstill
      cases entering with
      | true =>
        cases hv
        exact effect_listItem hn hk hw
      | false =>
        cases hv
        exact hstill (Noted.refl p) (by cases ordered <;> rfl) rfl
    | document | footnotes | horizontalRule | tableHeader | tableBody | tableFooter | tableRow
    | tableCell literal =>
      rw [hn] at hv hstill
      cases hv
      exact hstill (Noted.refl p) rfl rfl
    | emph | strong | del | htmlSpan literal =>
      rw [hn] at hv hstill
      cases hv
      exact hstill (noted_write p _) rfl rfl
    | code literal | htmlBlock literal | math literal =>
      rw [hn] at hv hstill
      cases hv
      exact hstill (((noted_write p _).write _).write _) rfl rfl
    | link destination title | image destination title =>
      rw [hn] at hv hstill
      cases hv
      exact hstill (noted_link p _ _ _) rfl rfl
    | codeBlock literal info =>
      rw [hn] at hv hstill
      cases hv
      exact hstill (noted_codeBlock p _ _) rfl rfl
    | heading level literal =>
      rw [hn] at hv hstill
      cases hv
      exact hstill (noted_heading p o _ _ _) rfl rfl
    | paragraph =>
      rw [hn] at hv hstill
      cases hv
      exact hstill (noted_paragraph p _ _) rfl rfl
    | blockQuote literal =>
      rw [hn] at hv hstill
      cases entering with
      | true =>
        cases hv
        exact hstill (noted_blockQuote p _ _) rfl rfl
      | false =>
        cases hv
        exact hstill (Noted.refl p) rfl rfl
    | mathBlock literal =>
      rw [hn] at hv hstill
      cases hv
      exact hstill (noted_mathBlock p o _) rfl rfl
    | table =>
      rw [hkind, hn] at hk
      exact absurd rfl hk
    | softBreak | hardBreak | crossReference | citation | caption | captionFigure | aside
    | documentMatter | callout | index | subscript | superscript =>
      rw [hkind, hn] at hr
      cases hr

end Pass
end ChatMarkup
