import ChatMarkup.Proofs.Render.Visits
import ChatMarkup.Proofs.Escape.Bare
import ChatMarkup.Document.Tree

namespace ChatMarkup

/-- The kinds all of whose content is escaped. -/
def Kind.isEscaped : Kind → Bool
  | document | paragraph | text | emph | strong | del | heading | blockQuote | list | listItem
  | math | mathBlock | horizontalRule | footnotes => true
  | _ => false

theorem Kind.ne_table_of_isEscaped {k : Kind} (h : k.isEscaped = true) : k ≠ .table := by
  intro e
  subst e
  cases h

theorem Kind.isRefused_of_isEscaped {k : Kind} (h : k.isEscaped = true) : k.isRefused = false := by
  cases k <;> first | rfl | cases h

/-- Whether no heading marker holds a reserved character. -/
def Options.PlainMarkers (o : Options) : Prop :=
  ∀ marker ∈ o.defaultHeadingMarker :: o.headingMarkers, ∀ c ∈ marker, isReserved c = false

instance (o : Options) : Decidable o.PlainMarkers :=
  decidable_of_iff
    ((o.defaultHeadingMarker :: o.headingMarkers).all fun marker => marker.all (!isReserved ·))
    (by simp [Options.PlainMarkers])

theorem Options.PlainMarkers.headingMarker {o : Options} (h : o.PlainMarkers) (level : Nat) :
    ∀ c ∈ o.headingMarker level, isReserved c = false := by
  apply h
  rw [Options.headingMarker, List.getD_eq_getElem?_getD]
  cases hm : o.headingMarkers[level]? with
  | none => exact List.mem_cons_self
  | some marker => exact List.mem_cons_of_mem _ (List.mem_of_getElem? hm)

namespace Pass

variable {d : Document} {o : Options} {p : Pass d}

/-- The markup that a visit writes around content. -/
def markup (o : Options) (v : d.Visit) : Text :=
  match d.node v.id with
  | .emph => ['_']
  | .strong => ['*']
  | .del => ['~']
  | .heading _ _ => ['*']
  | .blockQuote _ => if v.entering && isMarkedQuote v.id then ['>'] else []
  | .math _ => List.replicate 2 '\x60'
  | .mathBlock literal => if isSuppressed o literal then [] else List.replicate 6 '\x60'
  | _ => []

theorem isReserved_of_mem_ofNat {n : Nat} {c : Char} (h : c ∈ Text.ofNat n) :
    isReserved c = false := by
  have hdigit : c.isDigit = true := Nat.isDigit_of_mem_toDigits (by decide) (by decide) h
  exact isReserved_eq_false_of (by decide) hdigit

theorem marks?_textPiece (p : Pass d) (literal : Text) :
    marks? (p.textPiece literal) = some [] := by
  unfold textPiece
  dsimp only
  split_ifs
  · rfl
  · exact marks?_collapse_escapeRun _ _

theorem marks?_headingPiece (ho : o.PlainMarkers) (level : Nat) (literal : Text)
    (entering : Bool) : marks? (headingPiece o level literal entering) = some ['*'] := by
  cases entering with
  | false => rfl
  | true =>
    have hmarker := marks?_of_unreserved (ho.headingMarker level)
    have hspace : marks? [' '] = some [] := by decide
    have hstar : marks? ['*'] = some ['*'] := by decide
    exact marks?_append (marks?_append (marks?_append hstar hmarker) hspace)
      (marks?_escapeLiteral literal)

theorem marks?_itemPiece (p : Pass d) (o : Options) (ordered : Bool) (bullet : Char) :
    marks? (p.itemPiece o ordered bullet) = some [] := by
  have hindent : marks? (p.numbering.indent o.indentSize) = some [] := by
    apply marks?_of_unreserved
    intro c hc
    rw [List.eq_of_mem_replicate hc]
    decide
  cases ordered with
  | false => exact marks?_append hindent rfl
  | true =>
    have hnumber : marks? (Text.ofNat p.numbering.next.1) = some [] :=
      marks?_of_unreserved fun c hc => isReserved_of_mem_ofNat hc
    have hdot : marks? ['\\', '.', ' '] = some [] := by decide
    exact marks?_append hindent (marks?_append hnumber hdot)

theorem marks?_paragraphPiece (p : Pass d) (id : d.Id) (entering : Bool) :
    marks? (p.paragraphPiece id entering) = some [] := by
  unfold paragraphPiece
  split_ifs
  · cases item? id with
    | none => rfl
    | some item =>
      dsimp only
      split_ifs <;> decide
  all_goals decide

theorem marks?_quotePiece (id : d.Id) (literal : Text) :
    marks? (quotePiece id literal) = some (if isMarkedQuote id then ['>'] else []) := by
  have hmark : marks? (if isMarkedQuote id then ['>'] else []) =
      some (if isMarkedQuote id then ['>'] else []) := by
    split_ifs <;> decide
  have htext : marks? ((escapeLiteral literal).dropWhile (· == ' ')) = some [] := by
    rw [dropWhile_escapeLiteral (by decide)]
    exact marks?_escapeLiteral _
  rw [quotePiece, marks?_append hmark htext, List.append_nil]

theorem marks?_mathPiece (o : Options) (literal : Text) :
    marks? (mathPiece o literal) = some (List.replicate 2 '\x60') := by
  have hopen : marks? ['\x60', ' '] = some ['\x60'] := by decide
  have hclose : marks? [' ', '\x60'] = some ['\x60'] := by decide
  exact marks?_append (marks?_append hopen (marks?_escapeLiteral _)) hclose

theorem marks?_mathBlockPiece (o : Options) (literal : Text) :
    marks? (mathBlockPiece o literal) =
      some (if isSuppressed o literal then [] else List.replicate 6 '\x60') := by
  unfold mathBlockPiece
  split_ifs
  · rfl
  · have hopen : marks? (fence ++ ['\n']) = some fence := by decide
    have hclose : marks? ('\n' :: fence) = some fence := by decide
    exact marks?_append (marks?_append hopen (marks?_escapeLiteral _)) hclose

/-- What a visit writes shows the markup of the visit and nothing else. -/
theorem marks?_piece (ho : o.PlainMarkers) (p : Pass d) {v : d.Visit}
    (hk : (d.kind v.id).isEscaped = true) :
    marks? (p.piece o v.id v.entering) = some (markup o v) := by
  unfold piece markup
  rw [Document.kind] at hk
  cases hn : d.node v.id with
  | document | footnotes | horizontalRule | emph | strong | del => rfl
  | text literal => exact marks?_textPiece p literal
  | heading level literal => exact marks?_headingPiece ho level literal v.entering
  | list ordered => cases v.entering <;> rfl
  | listItem ordered bullet =>
    cases v.entering with
    | true => exact marks?_itemPiece p o ordered bullet
    | false => rfl
  | paragraph => exact marks?_paragraphPiece p v.id v.entering
  | blockQuote literal =>
    cases v.entering with
    | true => exact marks?_quotePiece v.id literal
    | false => rfl
  | math literal => exact marks?_mathPiece o literal
  | mathBlock literal => exact marks?_mathBlockPiece o literal
  | _ => simp [hn, Node.kind, Kind.isEscaped] at hk

/-- One visit where no table has been rendered: it goes on, and the marks grow by the markup of the
visit. -/
theorem runVisit_of_isEscaped (ho : o.PlainMarkers) {v : d.Visit} {marks : Text}
    (hk : (d.kind v.id).isEscaped = true) (hp : p.rendered = [])
    (hm : marks? p.out.toList = some marks) :
    ∃ q, Document.runVisit (visit o) p v = .ok q ∧ q.rendered = [] ∧
      marks? q.out.toList = some (marks ++ markup o v) := by
  have hin : p.insideRendered v.id = false := by simp [insideRendered, hp]
  obtain ⟨q, hv, hq⟩ := visit_of_plain (o := o) hin (Kind.ne_table_of_isEscaped hk)
    (Kind.isRefused_of_isEscaped hk) v.entering
  refine ⟨q, runVisit_of_ok hv, hq.rendered.trans hp, ?_⟩
  rw [hq.out]
  exact marks?_append hm (marks?_piece ho p hk)

/-- A run over nodes of escaped kinds goes through, and the marks grow by the markup of its
visits. -/
theorem run_of_isEscaped (ho : o.PlainMarkers) (hd : ∀ id, (d.kind id).isEscaped = true)
    (l : List d.Visit) {marks : Text} (hp : p.rendered = [])
    (hm : marks? p.out.toList = some marks) :
    ∃ q, l.foldlM (Document.runVisit (visit o)) p = .ok q ∧
      marks? q.out.toList = some (marks ++ l.flatMap (markup o)) := by
  induction l generalizing p marks with
  | nil => exact ⟨p, rfl, by rw [List.flatMap_nil, List.append_nil, hm]⟩
  | cons v l ih =>
    obtain ⟨q, hv, hq, hmq⟩ := runVisit_of_isEscaped ho (hd v.id) hp hm
    obtain ⟨r, hr, hmr⟩ := ih hq hmq
    refine ⟨r, ?_, ?_⟩
    · rw [List.foldlM_cons, hv]
      exact hr
    · rw [hmr, List.flatMap_cons, List.append_assoc]

end Pass

/-- The content of a document adds no markup: in a document of escaped kinds, rendered with plain
heading markers, the unprotected characters are those that the visits of the walk write as markup,
in the order of the visits. -/
theorem marks?_render (d : Document) (o : Options) (hd : ∀ id, (d.kind id).isEscaped = true)
    (ho : o.PlainMarkers) :
    ∃ out, render d o = .ok out ∧
      marks? out.toList = some ((d.visits fun _ => false).flatMap (Pass.markup o)) := by
  have hvisits : d.visits Pass.isTable = d.visits fun _ => false := by
    apply Document.visitsFrom_congr
    intro id
    simpa [Pass.isTable] using Kind.ne_table_of_isEscaped (hd id)
  have hnew : marks? ({} : Pass d).out.toList = some [] := rfl
  obtain ⟨q, hq, hm⟩ := Pass.run_of_isEscaped ho hd (d.visits Pass.isTable) rfl hnew
  refine ⟨q.out, ?_, ?_⟩
  · rw [Pass.render_eq, hq]
    rfl
  · rw [hm, hvisits, List.nil_append]

/-- Marks in literals of five kinds stay protected. -/
theorem marks?_render_marked_literals :
    let d := Document.ofTrees [
      .node (.blockQuote "*a*".toList) [.node .strong [.node (.text "> _b_ 1.".toList) []]],
      .node (.list true) [.node (.listItem true '#') [.node (.math "c`".toList) []]],
      .node (.heading 1 "d]".toList) []]
    (∀ id, (d.kind id).isEscaped = true) ∧ ({} : Options).PlainMarkers ∧
      ∃ out, render d {} = .ok out ∧ marks? out.toList = some ">**``**".toList := by
  intro d
  have hd : ∀ id, (d.kind id).isEscaped = true := by decide +kernel
  have ho : ({} : Options).PlainMarkers := by decide +kernel
  obtain ⟨out, hout, hm⟩ := marks?_render d {} hd ho
  refine ⟨hd, ho, out, hout, hm.trans ?_⟩
  decide +kernel

end ChatMarkup
