import ChatMarkup.Proofs.Document.Order
import ChatMarkup.Render.Pass

namespace ChatMarkup
namespace Pass

variable {d : Document} {o : Options} {p q r : Pass d} {id : d.Id} {s t : Text}

/-- The pass `q` comes from the pass `p` by writing `t`; no table is rendered on the way. -/
structure Wrote (p : Pass d) (t : Text) (q : Pass d) : Prop where
  out : q.out.toList = p.out.toList ++ t
  rendered : q.rendered = p.rendered

theorem Wrote.refl (p : Pass d) : Wrote p [] p := ⟨(List.append_nil _).symm, rfl⟩

theorem Wrote.trans (h : Wrote p s q) (k : Wrote q t r) : Wrote p (s ++ t) r :=
  ⟨by rw [k.out, h.out, List.append_assoc], k.rendered.trans h.rendered⟩

theorem wrote_write (p : Pass d) (t : Text) : Wrote p t (p.write t) := ⟨out_write p t, rfl⟩

theorem Wrote.of_eq (hout : q.out = p.out) (hrendered : q.rendered = p.rendered) :
    Wrote p [] q := ⟨by rw [hout, List.append_nil], hrendered⟩

def textPiece (p : Pass d) (literal : Text) : Text :=
  let escaped := escapeRun literal p.lastText
  if p.numbering.inList && escaped == ['\n'] then [] else collapseWhitespace escaped

theorem wrote_text (p : Pass d) (literal : Text) :
    Wrote p (p.textPiece literal) (p.text literal) := by
  have h0 : Wrote p [] { p with lastText := literal } := Wrote.of_eq rfl rfl
  unfold textPiece text
  dsimp only
  split_ifs with hbreak hempty
  · exact h0
  · rw [List.isEmpty_iff.mp hempty]
    exact h0
  · exact h0.trans (wrote_write _ _)

def headingPiece (o : Options) (level : Nat) (literal : Text) (entering : Bool) : Text :=
  if entering then ['*'] ++ o.headingMarker level ++ [' '] ++ escapeLiteral literal
  else ['*'] ++ ['\n', '\n']

theorem wrote_heading (p : Pass d) (o : Options) (level : Nat) (literal : Text)
    (entering : Bool) :
    Wrote p (headingPiece o level literal entering) (p.heading o level literal entering) := by
  cases entering with
  | true =>
    exact (((wrote_write _ _).trans (wrote_write _ _)).trans (wrote_write _ _)).trans
      (wrote_write _ _)
  | false => exact (wrote_write _ _).trans (wrote_write _ _)

theorem wrote_list (p : Pass d) (ordered entering : Bool) :
    Wrote p (if entering then [] else ['\n']) (p.list ordered entering) := by
  cases entering with
  | true => exact Wrote.of_eq rfl rfl
  | false =>
    have h0 : Wrote p [] { p with numbering := p.numbering.exit } := Wrote.of_eq rfl rfl
    exact h0.trans (wrote_write _ _)

def itemPiece (p : Pass d) (o : Options) (ordered : Bool) (bullet : Char) : Text :=
  p.numbering.indent o.indentSize ++
    if ordered then Text.ofNat p.numbering.next.1 ++ ['\\', '.', ' '] else ['\\', bullet, ' ']

theorem wrote_listItem (p : Pass d) (o : Options) (ordered : Bool) (bullet : Char) :
    Wrote p (p.itemPiece o ordered bullet) (p.listItem o ordered bullet) := by
  have h1 := wrote_write p (p.numbering.indent o.indentSize)
  cases ordered with
  | true =>
    have h2 : Wrote (p.write (p.numbering.indent o.indentSize)) []
        { p.write (p.numbering.indent o.indentSize) with numbering := p.numbering.next.2 } :=
      Wrote.of_eq rfl rfl
    exact h1.trans (h2.trans (wrote_write _ _))
  | false => exact h1.trans (wrote_write _ _)

/-- What a paragraph writes: a tab before the second one of an item, and its end. -/
def paragraphPiece (p : Pass d) (id : d.Id) (entering : Bool) : Text :=
  if entering then
    match item? id with
    | some item => if (d.children item)[1]? = some id then ['\t'] else []
    | none => []
  else if 0 < p.lastWrite then if (item? id).isSome then ['\n'] else ['\n', '\n']
  else []

theorem wrote_paragraph (p : Pass d) (id : d.Id) (entering : Bool) :
    Wrote p (p.paragraphPiece id entering) (p.paragraph id entering) := by
  unfold paragraphPiece paragraph
  split_ifs
  · cases item? id with
    | none => exact Wrote.refl p
    | some item =>
      dsimp only
      split_ifs
      · exact wrote_write p _
      · exact Wrote.refl p
  · exact wrote_write p _
  · exact wrote_write p _
  · exact Wrote.refl p

/-- Whether a quote stands directly in a document and has a mark. -/
def isMarkedQuote (id : d.Id) : Bool := (d.parent? id).any fun parent => d.kind parent == .document

def quotePiece (id : d.Id) (literal : Text) : Text :=
  (if isMarkedQuote id then ['>'] else []) ++ (escapeLiteral literal).dropWhile (· == ' ')

theorem wrote_blockQuote (p : Pass d) (id : d.Id) (literal : Text) :
    Wrote p (quotePiece id literal) (p.blockQuote id literal) := by
  unfold quotePiece blockQuote isMarkedQuote
  dsimp only
  split_ifs
  · exact (wrote_write _ _).trans (wrote_write _ _)
  · exact (Wrote.refl p).trans (wrote_write _ _)

def mathPiece (o : Options) (literal : Text) : Text :=
  ['\x60', ' '] ++ escapeLiteral (formula o literal) ++ [' ', '\x60']

theorem wrote_math (p : Pass d) (o : Options) (literal : Text) :
    Wrote p (mathPiece o literal) (p.math o literal) :=
  ((wrote_write _ _).trans (wrote_write _ _)).trans (wrote_write _ _)

/-- Whether a formula block is left out: it is taken for LaTeX and blocks are not normalized. -/
def isSuppressed (o : Options) (literal : Text) : Bool :=
  Latex.detect o.math.minDetectLength literal && !o.math.normalizeBlocks

def mathBlockPiece (o : Options) (literal : Text) : Text :=
  if isSuppressed o literal then []
  else fence ++ ['\n'] ++ escapeLiteral (formula o literal) ++ '\n' :: fence

theorem wrote_mathBlock (p : Pass d) (o : Options) (literal : Text) :
    Wrote p (mathBlockPiece o literal) (p.mathBlock o literal) := by
  unfold mathBlockPiece mathBlock isSuppressed
  split_ifs
  · exact Wrote.refl p
  · exact ((wrote_write _ _).trans (wrote_write _ _)).trans (wrote_write _ _)

def linkPiece (destination title : Text) (entering : Bool) : Text :=
  if entering then ['[']
  else
    [']', '('] ++ escapeDestination destination ++
      (if title.isEmpty then [] else [' ', '\x22'] ++ title ++ ['\x22']) ++ [')']

theorem wrote_link (p : Pass d) (destination title : Text) (entering : Bool) :
    Wrote p (linkPiece destination title entering) (p.link destination title entering) := by
  have h1 := (wrote_write p [']', '(']).trans (wrote_write _ (escapeDestination destination))
  unfold linkPiece link
  dsimp only
  split_ifs
  · exact wrote_write _ _
  · exact (h1.trans (Wrote.refl _)).trans (wrote_write _ _)
  · exact (h1.trans (((wrote_write _ _).trans (wrote_write _ _)).trans (wrote_write _ _))).trans
      (wrote_write _ _)

def codeBlockPiece (literal info : Text) : Text :=
  ['\n'] ++ fence ++ language info ++ ['\n'] ++ literal ++ (fence ++ ['\n', '\n'])

theorem wrote_codeBlock (p : Pass d) (literal info : Text) :
    Wrote p (codeBlockPiece literal info) (p.codeBlock literal info) := by
  have h1 := (wrote_write p ['\n']).trans (wrote_write _ fence)
  have h2 : Wrote ((p.write ['\n']).write fence) (language info)
      (if (language info).isEmpty then (p.write ['\n']).write fence
        else ((p.write ['\n']).write fence).write (language info)) := by
    split_ifs with hempty
    · rw [List.isEmpty_iff.mp hempty]
      exact Wrote.refl _
    · exact wrote_write _ _
  exact (((h1.trans h2).trans (wrote_write _ _)).trans (wrote_write _ _)).trans (wrote_write _ _)

/-- What a visit writes, tables apart. -/
def piece (p : Pass d) (o : Options) (id : d.Id) (entering : Bool) : Text :=
  match d.node id with
  | .text literal => p.textPiece literal
  | .emph => ['_']
  | .strong => ['*']
  | .del => ['~']
  | .link destination title => linkPiece destination title entering
  | .image destination title => linkPiece destination title entering
  | .code literal => ['\x60'] ++ literal ++ ['\x60']
  | .codeBlock literal info => codeBlockPiece literal info
  | .heading level literal => headingPiece o level literal entering
  | .list _ => if entering then [] else ['\n']
  | .listItem ordered bullet => if entering then p.itemPiece o ordered bullet else []
  | .paragraph => p.paragraphPiece id entering
  | .blockQuote literal => if entering then quotePiece id literal else []
  | .htmlSpan literal => literal
  | .htmlBlock literal => ['\n'] ++ literal ++ ['\n', '\n']
  | .math literal => mathPiece o literal
  | .mathBlock literal => mathBlockPiece o literal
  | _ => []

theorem visit_of_insideRendered (h : p.insideRendered id = true) (entering : Bool) :
    visit o id entering p = .ok (p, .goToNext) := by
  rw [visit, run_call_eq, if_pos h]
  rfl

theorem visit_eq_outcome_mark (h : p.insideRendered id = false) (entering : Bool) :
    visit o id entering p = outcome ((mark o id entering).run.run p) := by
  rw [visit, run_call_eq, if_neg (by simp [h])]

theorem visit_of_refused (h : p.insideRendered id = false) (hk : (d.kind id).isRefused = true)
    (entering : Bool) : visit o id entering p = .error (.unsupported (d.kind id)) := by
  rw [visit_eq_outcome_mark h]
  unfold mark
  rw [Document.kind] at hk
  cases hn : d.node id <;> first | rfl | simp [hn, Node.kind, Kind.isRefused] at hk

theorem visit_of_table (h : p.insideRendered id = false) (hk : d.kind id = .table)
    (entering : Bool) : visit o id entering p = .ok (p.table o id) := by
  rw [visit_eq_outcome_mark h]
  unfold mark
  rw [Document.kind] at hk
  cases hn : d.node id <;> first | rfl | simp [hn, Node.kind] at hk

theorem visit_of_plain (h : p.insideRendered id = false) (hk : d.kind id ≠ .table)
    (hr : (d.kind id).isRefused = false) (entering : Bool) :
    ∃ q, visit o id entering p = .ok (q, .goToNext) ∧ Wrote p (p.piece o id entering) q := by
  rw [visit_eq_outcome_mark h]
  unfold mark piece
  rw [Document.kind] at hk hr
  cases hn : d.node id with
  | document | footnotes | horizontalRule | tableHeader | tableBody | tableFooter | tableRow =>
    exact ⟨p, rfl, Wrote.refl p⟩
  | tableCell literal => exact ⟨p, rfl, Wrote.refl p⟩
  | text literal => exact ⟨_, rfl, wrote_text p literal⟩
  | emph | strong | del => exact ⟨_, rfl, wrote_write p _⟩
  | link destination title | image destination title =>
    exact ⟨_, rfl, wrote_link p destination title entering⟩
  | code literal =>
    exact ⟨_, rfl, ((wrote_write p _).trans (wrote_write _ _)).trans (wrote_write _ _)⟩
  | codeBlock literal info => exact ⟨_, rfl, wrote_codeBlock p literal info⟩
  | heading level literal => exact ⟨_, rfl, wrote_heading p o level literal entering⟩
  | list ordered => exact ⟨_, rfl, wrote_list p ordered entering⟩
  | listItem ordered bullet =>
    cases entering with
    | true => exact ⟨_, rfl, wrote_listItem p o ordered bullet⟩
    | false => exact ⟨p, rfl, Wrote.refl p⟩
  | paragraph => exact ⟨_, rfl, wrote_paragraph p id entering⟩
  | blockQuote literal =>
    cases entering with
    | true => exact ⟨_, rfl, wrote_blockQuote p id literal⟩
    | false => exact ⟨p, rfl, Wrote.refl p⟩
  | htmlSpan literal => exact ⟨_, rfl, wrote_write p literal⟩
  | htmlBlock literal =>
    exact ⟨_, rfl, ((wrote_write p _).trans (wrote_write _ _)).trans (wrote_write _ _)⟩
  | table => exact absurd (by rw [hn]; rfl) hk
  | math literal => exact ⟨_, rfl, wrote_math p o literal⟩
  | mathBlock literal => exact ⟨_, rfl, wrote_mathBlock p o literal⟩
  | softBreak | hardBreak | crossReference | citation | caption | captionFigure | aside
  | documentMatter | callout | index | subscript | superscript =>
    simp [hn, Node.kind, Kind.isRefused] at hr

/-- What a visit can do: nothing below a rendered table, nothing to a rendered table, a table to be
rendered, a refusal, or a write of the other kinds. -/
theorem visit_cases (o : Options) (id : d.Id) (entering : Bool) (p : Pass d) :
    (p.insideRendered id = true ∧ visit o id entering p = .ok (p, .goToNext)) ∨
    (p.insideRendered id = false ∧ d.kind id = .table ∧ id ∈ p.rendered ∧
      visit o id entering p = .ok (p, .goToNext)) ∨
    (p.insideRendered id = false ∧ d.kind id = .table ∧ id ∉ p.rendered ∧
      visit o id entering p = .ok
        ({ p with rendered := id :: p.rendered }.write (d.renderTable id o.table),
          .skipChildren)) ∨
    (p.insideRendered id = false ∧ (d.kind id).isRefused = true ∧
      visit o id entering p = .error (.unsupported (d.kind id))) ∨
    (p.insideRendered id = false ∧ d.kind id ≠ .table ∧ (d.kind id).isRefused = false ∧
      ∃ q, visit o id entering p = .ok (q, .goToNext) ∧ Wrote p (p.piece o id entering) q) := by
  cases hin : p.insideRendered id with
  | true => exact Or.inl ⟨rfl, visit_of_insideRendered hin entering⟩
  | false =>
    by_cases hk : d.kind id = .table
    · have hv := visit_of_table (o := o) hin hk entering
      rw [table] at hv
      by_cases hm : id ∈ p.rendered
      · rw [if_pos (by simpa using hm)] at hv
        exact Or.inr (Or.inl ⟨rfl, hk, hm, hv⟩)
      · rw [if_neg (by simpa using hm)] at hv
        exact Or.inr (Or.inr (Or.inl ⟨rfl, hk, hm, hv⟩))
    · cases hr : (d.kind id).isRefused with
      | true => exact Or.inr (Or.inr (Or.inr (Or.inl ⟨rfl, rfl, visit_of_refused hin hr entering⟩)))
      | false =>
        exact Or.inr (Or.inr (Or.inr (Or.inr ⟨rfl, hk, rfl, visit_of_plain hin hk hr entering⟩)))

theorem insideRendered_of_mem_children {c : d.Id} (hc : c ∈ d.children id) :
    p.insideRendered c = (p.rendered.contains id || p.insideRendered id) := by
  rw [insideRendered, Document.ancestors_of_mem_children hc, List.any_cons, insideRendered]

theorem runVisit_of_ok {v : d.Visit} {status : Status}
    (h : visit o v.id v.entering p = .ok (q, status)) :
    Document.runVisit (visit o) p v = .ok q := by
  rw [Document.runVisit, h]
  rfl

theorem walkFrom_of_insideRendered (h : p.insideRendered id = true) :
    d.walkFrom (visit o) id p = .ok p := by
  induction id using Document.childInduction with
  | step id ih =>
    have hv := visit_of_insideRendered (o := o) h
    have hchildren : ∀ c ∈ d.children id, d.walkFrom (visit o) c p = .ok p := by
      intro c hc
      apply ih c hc
      rw [insideRendered_of_mem_children hc, h, Bool.or_true]
    have hexit : Document.runVisit (visit o) p ⟨id, false⟩ = .ok p := runVisit_of_ok (hv false)
    have hgo : Status.goToNext ≠ .skipChildren := by decide
    rw [Document.walkFrom_of_ok (hv true), if_neg hgo, Document.foldlM_of_forall_ok hchildren]
    split_ifs
    · rfl
    · exact hexit

/-- The kinds below which a rendering visits nothing. -/
def isTable (k : Kind) : Bool := k == .table

theorem keepsTo_visit (o : Options) : Document.KeepsTo (visit (d := d) o) isTable := by
  intro id p q status h
  have hchildren : p.insideRendered id = true ∨ id ∈ p.rendered →
      ∀ c ∈ d.children id, d.walkFrom (visit o) c p = .ok p := by
    intro hp c hc
    apply walkFrom_of_insideRendered
    rw [insideRendered_of_mem_children hc, Bool.or_eq_true, List.contains_iff_mem]
    exact hp.symm
  rcases visit_cases o id true p with ⟨hin, hv⟩ | ⟨-, hk, hm, hv⟩ | ⟨-, hk, -, hv⟩ |
    ⟨-, -, hv⟩ | ⟨-, hk, -, q', hv, -⟩ <;> rw [hv] at h <;> cases h
  · split_ifs
    · exact Or.inr (hchildren (Or.inl hin))
    · rfl
  · rw [isTable, hk]
    exact Or.inr (hchildren (Or.inr hm))
  · rw [isTable, hk]
    exact Or.inl rfl
  · rw [isTable, if_neg (by simpa using hk)]

/-- A rendering is the run of the visits of a walk that skips below tables. -/
theorem render_eq (d : Document) (o : Options) :
    render d o = ((d.visits isTable).foldlM (Document.runVisit (visit o)) {}).map (·.out) := by
  rw [render, finish, Document.walk, Document.walkFrom_eq_foldlM (keepsTo_visit o)]
  rfl

end Pass
end ChatMarkup
