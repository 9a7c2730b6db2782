import ChatMarkup.Proofs.Escape.Shown
import ChatMarkup.Proofs.Render.ParagraphEnd

namespace ChatMarkup

/-- The kinds of styled paragraphs. -/
def Kind.isStyled : Kind → Bool
  | document | paragraph | text | emph | strong | del => true
  | _ => false

theorem Kind.isRefused_of_isStyled {k : Kind} (h : k.isStyled = true) : k.isRefused = false := by
  cases k <;> first | rfl | cases h

namespace Pass

variable {d : Document} {o : Options} {p q : Pass d} {v : d.Visit}

/-- What a visit adds to what a reader sees: the squeezed run, and two line breaks at the end of a
paragraph before which anything has been written. -/
def content (p : Pass d) (v : d.Visit) : Text :=
  match d.node v.id with
  | .text literal => collapseWhitespace literal
  | .paragraph => if v.entering = false ∧ p.out ≠ "" then ['\n', '\n'] else []
  | _ => []

/-- A pass outside of lists that knows whether anything has been written. -/
structure Steady (p : Pass d) : Prop where
  depth : p.numbering.depth = 0
  lastWrite : 0 < p.lastWrite ↔ p.out.toList ≠ []

theorem Steady.effect (hp : p.Steady) (hk : (d.kind v.id).isStyled = true)
    (h : Effect p o v.id v.entering q) : q.Steady := by
  have ⟨hblank, hsame⟩ : v.endsBlank = false ∧
      p.numbering.after (d.node v.id) v.entering = p.numbering := by
    rw [Document.kind] at hk
    rw [Document.Visit.endsBlank]
    cases hn : d.node v.id <;> first | exact ⟨rfl, rfl⟩ | rw [hn] at hk; cases hk
  refine ⟨?_, h.out_ne_nil hp.lastWrite.mp, h.lastWrite_pos hblank hp.lastWrite.mpr⟩
  rw [h.numbering, hsame]
  exact hp.depth

theorem shown?_textPiece (hp : p.Steady) (literal : Text) :
    shown? (p.textPiece literal) = some (collapseWhitespace literal) := by
  have hout : p.numbering.inList = false := by
    rw [ListNumbering.inList, hp.depth]
    rfl
  rw [textPiece, hout]
  exact shown?_collapse_escapeRun literal p.lastText

theorem item?_eq_none (hd : ∀ id, (d.kind id).isStyled = true) (id : d.Id) : item? id = none := by
  rw [item?, Option.filter_eq_none_iff]
  intro parent _ hitem
  have hparent := hd parent
  rw [beq_iff_eq.mp hitem] at hparent
  cases hparent

theorem shown?_paragraphPiece (hd : ∀ id, (d.kind id).isStyled = true) (hp : p.Steady)
    (id : d.Id) (entering : Bool) :
    shown? (p.paragraphPiece id entering) =
      some (if entering = false ∧ p.out ≠ "" then ['\n', '\n'] else []) := by
  have hout : p.out ≠ "" ↔ 0 < p.lastWrite := by
    rw [hp.lastWrite, ne_eq, ne_eq, String.toList_eq_nil_iff]
  rw [paragraphPiece, item?_eq_none hd]
  cases entering with
  | true => rfl
  | false =>
    rw [if_neg Bool.false_ne_true]
    by_cases hpos : 0 < p.lastWrite
    · rw [if_pos hpos, Option.isSome_none, if_neg Bool.false_ne_true,
        if_pos ⟨rfl, hout.mpr hpos⟩]
      rfl
    · rw [if_neg hpos, if_neg fun h => hpos (hout.mp h.2)]
      rfl

/-- What a visit writes shows what it has to add and nothing else. -/
theorem shown?_written (hd : ∀ id, (d.kind id).isStyled = true) (hp : p.Steady) (v : d.Visit) :
    shown? (p.written o v.id v.entering) = some (p.content v) := by
  have hk := hd v.id
  unfold written piece content
  rw [Document.kind] at hk
  cases hn : d.node v.id with
  | document => rfl
  | text literal => exact shown?_textPiece hp literal
  | emph | strong | del => rfl
  | paragraph => exact shown?_paragraphPiece hd hp v.id v.entering
  | _ =>
    rw [hn] at hk
    cases hk

theorem run_of_isStyled (hd : ∀ id, (d.kind id).isStyled = true) (l : List d.Visit) {x : Text}
    (hguard : d.Unguarded p.rendered l) (hp : p.Steady) (hx : shown? p.out.toList = some x) :
    ∃ q, l.foldlM (Document.runVisit (visit o)) p = .ok q ∧
      shown? q.out.toList =
        some (x ++ (history o p l).flatMap fun s => s.before.content s.visit) := by
  induction l generalizing p x with
  | nil => exact ⟨p, rfl, by rw [history, List.flatMap_nil, List.append_nil, hx]⟩
  | cons v l ih =>
    have hkind := Kind.isRefused_of_isStyled (hd v.id)
    obtain ⟨q, hv, hafter, heffect, hrest⟩ := step_of_unguarded (o := o) hguard hkind
    have hq : shown? q.out.toList = some (x ++ p.content v) := by
      rw [heffect.out]
      exact shown?_append hx (shown?_written hd hp v)
    obtain ⟨r, hrun, hr⟩ := ih hrest (hp.effect (hd v.id) heffect) hq
    refine ⟨r, ?_, ?_⟩
    · rw [List.foldlM_cons, hv]
      exact hrun
    · rw [hr, history, hafter, List.flatMap_cons, List.append_assoc]
      rfl

end Pass

/-- No text is lost or altered: of a document of styled paragraphs a reader sees the squeezed runs of
text in the order of the visits, two line breaks for each end of a paragraph before which anything
has been written, and nothing else. -/
theorem shown?_render (d : Document) (o : Options) (hd : ∀ id, (d.kind id).isStyled = true) :
    ∃ out, render d o = .ok out ∧
      shown? out.toList = some ((d.steps o).flatMap fun s => s.before.content s.visit) := by
  have hnew : ({} : Pass d).Steady :=
    ⟨rfl, fun hpos => absurd hpos (Nat.lt_irrefl 0), fun hne => absurd rfl hne⟩
  obtain ⟨q, hq, hx⟩ := Pass.run_of_isStyled (o := o) hd _ d.unguarded_visits hnew rfl
  refine ⟨q.out, ?_, hx⟩
  rw [Pass.render_eq, hq]
  rfl

/-- An empty paragraph in front adds no line breaks, a squeezed run keeps its own marks, and a
paragraph inside of emphasis ends like any other. -/
theorem shown?_render_nested :
    let d := Document.ofTrees [.node .paragraph [],
      .node .paragraph [.node (.text ['1']) [], .node (.text ".\t *a*".toList) []],
      .node .emph [.node .paragraph []]]
    (∀ id, (d.kind id).isStyled = true) ∧
      ∃ out, render d {} = .ok out ∧ shown? out.toList = some "1. *a*\n\n\n\n".toList := by
  intro d
  have hd : ∀ id, (d.kind id).isStyled = true := by decide +kernel
  obtain ⟨out, hout, hshown⟩ := shown?_render d {} hd
  have hcontent : ((d.steps {}).flatMap fun s => s.before.content s.visit) =
      "1. *a*\n\n\n\n".toList := by decide +kernel
  exact ⟨hd, out, hout, hshown.trans (congrArg some hcontent)⟩

end ChatMarkup
