import ChatMarkup.Proofs.Document.Twins
import ChatMarkup.Proofs.Render.Numbering
import Mathlib.Data.List.Nodup

namespace ChatMarkup
namespace Document

variable {d e : Document} {i p : d.Id} {j q : e.Id}

def isSecond (d : Document) (id : d.Id) : Bool :=
  (Pass.item? id).any fun item => (d.children item)[1]? == some id

/-- Nodes with the same content, with the same of what a visit looks at around them. -/
structure Alike (i : d.Id) (j : e.Id) : Prop where
  node : d.node i = e.node j
  parent : (d.parent? i).map d.node = (e.parent? j).map e.node
  second : d.isSecond i = e.isSecond j
  depth : d.listDepth i = e.listDepth j
  ordinal : (d.parent? i).map d.node = some (.list true) → d.ordinal i = e.ordinal j
  table : d.kind i = .table → ∀ o, d.renderTable i o = e.renderTable j o

theorem Alike.kind (h : Alike i j) : d.kind i = e.kind j := congrArg Node.kind h.node

theorem alike_root : Alike d.root e.root := by
  have hdepth : ∀ d : Document, d.listDepth d.root = 0 := by
    intro d
    rw [listDepth, ancestors_root]
    rfl
  have hitem : ∀ d : Document, d.isSecond d.root = false := by
    intro d
    rw [isSecond, Pass.item?, parent?_root]
    rfl
  refine ⟨?_, ?_, ?_, ?_, ?_, ?_⟩
  · rw [node_root, node_root]
  · rw [parent?_root, parent?_root]
    rfl
  · rw [hitem, hitem]
  · rw [hdepth d, hdepth e]
  · intro hparent
    rw [parent?_root] at hparent
    cases hparent
  · intro hk
    rw [kind_root] at hk
    cases hk

theorem item?_of_mem_children {c : d.Id} (hc : c ∈ d.children p) :
    Pass.item? c = if d.kind p = .listItem then some p else none := by
  rw [Pass.item?, (d.mem_children_iff).mp hc, Option.filter_some]
  simp

theorem isOrderedItem_eq (h : d.node i = e.node j) : d.isOrderedItem i = e.isOrderedItem j := by
  rw [isOrderedItem, isOrderedItem, h]

section Siblings

variable {before after : List d.Id} {before' after' : List e.Id} {c : d.Id} {c' : e.Id}

theorem isSecond_of_split (hsplit : d.children p = before ++ c :: after) :
    d.isSecond c = (d.kind p == .listItem && before.length == 1) := by
  have hc : c ∈ d.children p := by
    rw [hsplit]
    exact List.mem_append_right _ List.mem_cons_self
  have hnodup := d.nodup_children p
  have hplace : (d.children p)[1]? = some c ↔ before.length = 1 := by
    have hhere : (d.children p)[before.length]? = some c := by simp [hsplit]
    constructor
    · intro hone
      obtain ⟨h1, hone⟩ := List.getElem?_eq_some_iff.mp hone
      obtain ⟨hlt, hhere⟩ := List.getElem?_eq_some_iff.mp hhere
      exact (hnodup.getElem_inj_iff.mp (hhere.trans hone.symm))
    · intro hlength
      rw [← hlength]
      exact hhere
  rw [isSecond, item?_of_mem_children hc]
  by_cases hk : d.kind p = .listItem
  · rw [if_pos hk, Bool.eq_iff_iff]
    simp [hk, hplace]
  · rw [if_neg hk]
    simp [hk]

theorem alike_of_split (h : Twin c c') (hnode : d.node p = e.node q)
    (hdepth : d.listDepth p = e.listDepth q) (hsplit : d.children p = before ++ c :: after)
    (hsplit' : e.children q = before' ++ c' :: after')
    (hplace : d.kind p = .listItem → before.length = before'.length)
    (hcount : d.node p = .list true →
      before.countP d.isOrderedItem = before'.countP e.isOrderedItem) : Alike c c' := by
  have hkind : d.kind p = e.kind q := congrArg Node.kind hnode
  have hc : c ∈ d.children p := by
    rw [hsplit]
    exact List.mem_append_right _ List.mem_cons_self
  have hc' : c' ∈ e.children q := by
    rw [hsplit']
    exact List.mem_append_right _ List.mem_cons_self
  refine ⟨h.node, ?_, ?_, ?_, ?_, fun _ => h.renderTable⟩
  · rw [(d.mem_children_iff).mp hc, (e.mem_children_iff).mp hc', Option.map_some, Option.map_some,
      hnode]
  · rw [isSecond_of_split hsplit, isSecond_of_split hsplit', ← hkind]
    by_cases hk : d.kind p = .listItem
    · rw [hplace hk]
    · have hne : (d.kind p == .listItem) = false := beq_eq_false_iff_ne.mpr hk
      rw [hne, Bool.false_and, Bool.false_and]
  · rw [listDepth_of_mem_children hc, listDepth_of_mem_children hc', hdepth, hkind]
  · intro hparent
    rw [(d.mem_children_iff).mp hc] at hparent
    have hlist := Option.some.inj hparent
    rw [ordinal, ordinal, siblingsBefore_eq hsplit, siblingsBefore_eq hsplit', hcount hlist]

theorem forall₂_alike {l : List d.Id} {m : List e.Id} (h : List.Forall₂ Twin l m)
    (hnode : d.node p = e.node q) (hdepth : d.listDepth p = e.listDepth q)
    (hsplit : d.children p = before ++ l ++ after)
    (hsplit' : e.children q = before' ++ m ++ after')
    (hplace : d.kind p = .listItem → before.length = before'.length)
    (hcount : d.node p = .list true →
      before.countP d.isOrderedItem = before'.countP e.isOrderedItem) :
    List.Forall₂ (fun c c' => Twin c c' ∧ Alike c c') l m := by
  induction h generalizing before before' with
  | nil => exact List.Forall₂.nil
  | @cons c c' l m hcc _ ih =>
    rw [List.append_assoc, List.cons_append] at hsplit hsplit'
    refine List.Forall₂.cons ⟨hcc, ?_⟩ ?_
    · exact alike_of_split hcc hnode hdepth hsplit hsplit' hplace hcount
    · refine ih (?_ : _ = (before ++ [c]) ++ l ++ after)
        (?_ : _ = (before' ++ [c']) ++ m ++ after') ?_ ?_
      · rw [hsplit, List.append_assoc, List.append_assoc, List.singleton_append]
      · rw [hsplit', List.append_assoc, List.append_assoc, List.singleton_append]
      · intro hk
        rw [List.length_append, List.length_append, hplace hk]
        rfl
      · intro hlist
        rw [List.countP_append, List.countP_append, hcount hlist, List.countP_singleton,
          List.countP_singleton, isOrderedItem_eq hcc.node]

end Siblings

/-- Visits of nodes that are alike, both on entry or both on exit. -/
def AlikeVisits (v : d.Visit) (w : e.Visit) : Prop := Alike v.id w.id ∧ v.entering = w.entering

theorem AlikeVisits.text? {v : d.Visit} {w : e.Visit} (h : AlikeVisits v w) :
    v.text? = w.text? := congrArg Node.text? h.1.node

theorem forall₂_visitsFrom {skip : Kind → Bool} (htwin : Twin i j) (h : Alike i j) :
    List.Forall₂ AlikeVisits (d.visitsFrom skip i) (e.visitsFrom skip j) := by
  induction i using childInduction generalizing j with
  | step i ih =>
    have hchildren : List.Forall₂ (fun c c' => Twin c c' ∧ Alike c c') (d.children i)
        (e.children j) := by
      have hwhole : ∀ {α : Type} (l : List α), l = [] ++ l ++ [] := by simp
      exact forall₂_alike htwin.children h.node h.depth (hwhole _) (hwhole _) (fun _ => rfl)
        fun _ => rfl
    have hinner : List.Forall₂ AlikeVisits ((d.children i).flatMap (d.visitsFrom skip))
        ((e.children j).flatMap (e.visitsFrom skip)) := by
      apply forall₂_flatMap hchildren
      intro c hc c' hcc
      exact ih c hc hcc.1 hcc.2
    have hexit : List.Forall₂ AlikeVisits [(⟨i, false⟩ : d.Visit)] [(⟨j, false⟩ : e.Visit)] :=
      List.Forall₂.cons ⟨h, rfl⟩ List.Forall₂.nil
    rw [visitsFrom_eq, visitsFrom_eq, ← h.kind]
    refine List.Forall₂.cons ⟨h, rfl⟩ ?_
    split_ifs
    · exact List.Forall₂.nil
    · exact hexit
    · exact List.rel_append hinner hexit

end Document

namespace Pass

open Document

variable {d e : Document} {o : Options} {p : Pass d} {q : Pass e} {v : d.Visit} {w : e.Visit}

/-- Visits that are alike, with passes that agree in what the visits look at. -/
structure Agree (p : Pass d) (q : Pass e) (v : d.Visit) (w : e.Visit) : Prop where
  alike : Alike v.id w.id
  entering : v.entering = w.entering
  depth : p.numbering.depth = q.numbering.depth
  ordinal : d.isOrderedItem v.id = true → v.entering = true →
    p.numbering.ordinal p.numbering.depth = q.numbering.ordinal q.numbering.depth
  text : ∀ literal, v.text? = some literal →
    escapeRun literal p.lastText = escapeRun literal q.lastText
  lastWrite : d.kind v.id = .paragraph → v.entering = false → (0 < p.lastWrite ↔ 0 < q.lastWrite)
  rendered : d.kind v.id = .table → p.rendered.contains v.id = q.rendered.contains w.id

theorem isSome_item? (id : d.Id) :
    (item? id).isSome = ((d.parent? id).map d.node).any (·.kind == .listItem) := by
  rw [item?]
  cases d.parent? id with
  | none => rfl
  | some parent =>
    rw [Option.filter_some, kind]
    by_cases hk : (d.node parent).kind = .listItem
    · simp [hk]
    · simp [hk]

theorem isMarkedQuote_eq (id : d.Id) :
    isMarkedQuote id = ((d.parent? id).map d.node).any (·.kind == .document) := by
  rw [isMarkedQuote]
  cases d.parent? id with
  | none => rfl
  | some parent => rfl

theorem paragraphPiece_eq (p : Pass d) (id : d.Id) (entering : Bool) :
    p.paragraphPiece id entering =
      if entering then if d.isSecond id then ['\t'] else []
      else if 0 < p.lastWrite then if (item? id).isSome then ['\n'] else ['\n', '\n']
      else [] := by
  rw [paragraphPiece, isSecond]
  cases item? id with
  | none => rfl
  | some item => simp

theorem Agree.textPiece {literal : Text} (h : Agree p q v w) (hn : d.node v.id = .text literal) :
    p.textPiece literal = q.textPiece literal := by
  have htext := h.text literal (Node.text?_eq_some_iff.mpr hn)
  rw [Pass.textPiece, Pass.textPiece, ListNumbering.inList, ListNumbering.inList, h.depth, htext]

theorem Agree.paragraphPiece (h : Agree p q v w) (hk : d.kind v.id = .paragraph) :
    p.paragraphPiece v.id v.entering = q.paragraphPiece w.id w.entering := by
  have hitem : (item? v.id).isSome = (item? w.id).isSome := by
    rw [isSome_item?, isSome_item?, h.alike.parent]
  rw [paragraphPiece_eq, paragraphPiece_eq, ← h.entering, h.alike.second, hitem]
  cases hentering : v.entering with
  | true => rfl
  | false => rw [if_congr (h.lastWrite hk hentering) rfl rfl]

theorem Agree.next {bullet : Char} (h : Agree p q v w)
    (hn : d.node v.id = .listItem true bullet) (hentering : v.entering = true) :
    p.numbering.next.1 = q.numbering.next.1 := by
  have hitem : d.isOrderedItem v.id = true := by rw [isOrderedItem, hn]
  exact h.ordinal hitem hentering

theorem Agree.itemPiece {ordered : Bool} {bullet : Char} (h : Agree p q v w)
    (hn : d.node v.id = .listItem ordered bullet) (hentering : v.entering = true) :
    p.itemPiece o ordered bullet = q.itemPiece o ordered bullet := by
  rw [Pass.itemPiece, Pass.itemPiece, ListNumbering.indent, ListNumbering.indent, h.depth]
  cases ordered with
  | false => rfl
  | true => rw [h.next hn hentering]

theorem Agree.quotePiece (h : Agree p q v w) (literal : Text) :
    quotePiece v.id literal = quotePiece w.id literal := by
  rw [Pass.quotePiece, Pass.quotePiece, isMarkedQuote_eq, isMarkedQuote_eq, h.alike.parent]

/-- What a visit writes depends on what it looks at only. -/
theorem Agree.written (h : Agree p q v w) :
    p.written o v.id v.entering = q.written o w.id w.entering := by
  have hnode := h.alike.node
  unfold Pass.written piece
  rw [← hnode, ← h.entering]
  cases hn : d.node v.id with
  | text literal => exact h.textPiece hn
  | listItem ordered bullet =>
    cases hentering : v.entering with
    | true => exact h.itemPiece hn hentering
    | false => rfl
  | paragraph =>
    have hpiece := h.paragraphPiece (by rw [kind, hn]; rfl)
    rw [← h.entering] at hpiece
    exact hpiece
  | blockQuote literal =>
    cases v.entering with
    | true => exact h.quotePiece literal
    | false => rfl
  | table =>
    have hk : d.kind v.id = .table := by rw [kind, hn]; rfl
    dsimp only
    rw [h.rendered hk, h.alike.table hk]
  | _ => rfl

theorem Agree.lastWritten? (h : Agree p q v w) :
    p.lastWritten? o v.id v.entering = q.lastWritten? o w.id w.entering := by
  have hnode := h.alike.node
  unfold Pass.lastWritten?
  rw [← hnode, ← h.entering]
  cases hn : d.node v.id with
  | text literal => exact congrArg unlessEmpty (h.textPiece hn)
  | listItem ordered bullet =>
    cases hentering : v.entering with
    | true =>
      cases ordered with
      | true =>
        dsimp only
        rw [h.next hn hentering]
      | false => rfl
    | false => rfl
  | paragraph =>
    have hpiece := h.paragraphPiece (by rw [kind, hn]; rfl)
    rw [← h.entering] at hpiece
    exact congrArg unlessEmpty hpiece
  | table =>
    have hk : d.kind v.id = .table := by rw [kind, hn]; rfl
    dsimp only
    rw [h.rendered hk, h.alike.table hk]
  | _ => rfl

end Pass
end ChatMarkup
