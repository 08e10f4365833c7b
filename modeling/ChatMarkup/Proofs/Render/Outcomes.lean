import ChatMarkup.Proofs.Number.Limit
import ChatMarkup.Proofs.Render.Writing
import ChatMarkup.Render.Document
import ChatMarkup.Tree.Load
import Mathlib.Algebra.Group.Nat.Defs
import Mathlib.Tactic.SplitIfs

/-!
# What comes of rendering

Rendering a tree gives its form. Only two things keep it from that: a check that has something to
report, and an item whose number is too long to be written. The second one happens, to trees that
are read from data and pass any check: a list may begin at the last number that can be written.
-/
namespace ChatMarkup.Render
open Text Node

/-! ## Numbers that are too long -/

def LongAt (numbering : Option Numbering) : Prop :=
  ∃ n, numbering = some n ∧ n.ordered = true ∧ Number.isLong n.number = true

/-- What is not found in a list is not found there from further below either. -/
theorem map_unplaced_unplaced (numbering : Option Numbering) :
    (numbering.map Numbering.unplaced).map Numbering.unplaced =
      numbering.map Numbering.unplaced := by
  cases numbering <;> rfl

/-- The nodes below a node that are shown with it: in a table that is shown as a list, what its
cells hold, and in one that is shown as preformatted text, none. -/
def shownBelow (mode : TableMode) (n : Node) : List Node :=
  if n.isTable then
    if mode = .codeBlock then [] else (n.children.flatMap children).flatMap children
  else n.children

/-- Writing a node, where there are lists around it, comes to an item with a number that is too
long. -/
inductive Stalls (mode : TableMode) : Option Numbering → Node → Prop
  | item {numbering : Option Numbering} {n : Node} :
      n.isListItem = true → LongAt numbering → Stalls mode numbering n
  | shown {numbering : Option Numbering} {n c : Node} :
      n.isList = false → c ∈ shownBelow mode n → Stalls mode (numbering.map Numbering.unplaced) c →
      Stalls mode numbering n
  | listed {numbering : Option Numbering} {k : ℕ} {ordered spread : Bool}
      {start : Option Count} {items : List Node} {m : List (String × Value)} {c : Node} :
      items[k]? = some c → Stalls mode (some ⟨ordered,start,some k⟩) c →
      Stalls mode numbering (.container (.list ordered start spread) items m)

section
variable {mode : TableMode} {numbering : Option Numbering} {n m c : Node}

theorem mem_shownBelow_table (hn : n.isTable = true) :
    c ∈ shownBelow mode n ↔ mode ≠ .codeBlock ∧
      ∃ row ∈ n.children, ∃ cell ∈ row.children, c ∈ cell.children := by
  rw [shownBelow,if_pos hn]
  split_ifs with hm
  · simp [hm]
  · simp only [List.mem_flatMap]
    constructor
    · rintro ⟨cell,⟨row,hr,hc⟩,h⟩
      exact ⟨hm,row,hr,cell,hc,h⟩
    · rintro ⟨-,row,hr,cell,hc,h⟩
      exact ⟨cell,⟨row,hr,hc⟩,h⟩

/-- Trees with the same outline show trees with the same outlines. -/
theorem exists_shownBelow (h : Alike n m) (hc : c ∈ shownBelow mode m) :
    ∃ d ∈ shownBelow mode n, Alike d c := by
  have step {n m c : Node} (h : Alike n m) (hc : c ∈ m.children) : ∃ d ∈ n.children, Alike d c := by
    obtain ⟨k,hk⟩ := List.mem_iff_getElem?.mp hc
    obtain ⟨d,hd,ha⟩ := h.exists_child hk
    exact ⟨d,List.mem_of_getElem? hd,ha⟩
  cases hm : m.isTable with
  | false =>
    have hn : n.isTable = false := h.sameKind.isTable.trans hm
    simp only [shownBelow,hm,hn,Bool.false_eq_true,if_false] at hc ⊢
    exact step h hc
  | true =>
    have hn : n.isTable = true := h.sameKind.isTable.trans hm
    obtain ⟨hmode,row,hr,cell,hcell,hc⟩ := (mem_shownBelow_table hm).mp hc
    obtain ⟨row',hr',hrow⟩ := step h hr
    obtain ⟨cell',hc',hcell'⟩ := step hrow hcell
    obtain ⟨d,hd,ha⟩ := step hcell' hc
    exact ⟨d,(mem_shownBelow_table hn).mpr ⟨hmode,row',hr',cell',hc',hd⟩,ha⟩

/-- Whether a tree stalls is up to its outline. -/
theorem Stalls.of_alike (h : Stalls mode numbering m) (ha : Alike n m) :
    Stalls mode numbering n := by
  induction h generalizing n with
  | item hi hl => exact .item (ha.sameKind.isListItem.trans hi) hl
  | shown hl hc _ ih =>
    obtain ⟨d,hd,hdc⟩ := exists_shownBelow ha hc
    exact .shown (ha.sameKind.isList.trans hl) hd (ih hdc)
  | @listed numbering k ordered spread start items metadata c hc _ ih =>
    cases n with
    | container kind cs m =>
      obtain ⟨rfl,-⟩ := Node.container.inj ha.bare
      obtain ⟨d,hd,hdc⟩ := ha.exists_child hc
      exact .listed hd (ih hdc)
    | leaf kind m =>
      have hb := ha.bare
      cases kind <;> cases hb
    | table => cases ha.bare
    | unknown => cases ha.bare

/-- What a node shows of a child is not found in the list around the node. -/
def StallsBelow (mode : TableMode) (numbering : Option Numbering) (c : Node) : Prop :=
  Stalls mode (numbering.map Numbering.unplaced) c

theorem stalls_iff (hl : n.isList = false) (hi : n.isListItem = false) :
    Stalls mode numbering n ↔ ∃ c ∈ shownBelow mode n, StallsBelow mode numbering c := by
  constructor
  · intro h
    cases h with
    | item hn _ => rw [hi] at hn; cases hn
    | shown _ hc hs => exact ⟨_,hc,hs⟩
    | listed => cases hl
  · rintro ⟨c,hc,hs⟩
    exact .shown hl hc hs

theorem stalls_iff_children (ht : n.isTable = false) (hl : n.isList = false)
    (hi : n.isListItem = false) :
    Stalls mode numbering n ↔ ∃ c ∈ n.children, StallsBelow mode numbering c := by
  rw [stalls_iff hl hi,shownBelow,if_neg (by simp [ht])]

theorem stallsBelow_iff_children (ht : n.isTable = false) (hl : n.isList = false)
    (hi : n.isListItem = false) :
    StallsBelow mode numbering n ↔ ∃ c ∈ n.children, StallsBelow mode numbering c := by
  rw [StallsBelow,stalls_iff_children ht hl hi]
  simp only [StallsBelow,map_unplaced_unplaced]

theorem stalls_item_iff {checked : Option Bool} {parts : List Node}
    {m : List (String × Value)} :
    Stalls mode numbering (.container (.listItem checked) parts m) ↔
      LongAt numbering ∨ ∃ c ∈ parts, StallsBelow mode numbering c := by
  constructor
  · intro h
    cases h with
    | item _ hn => exact .inl hn
    | shown _ hc hs => exact .inr ⟨_,hc,hs⟩
  · rintro (hn | ⟨c,hc,hs⟩)
    · exact .item rfl hn
    · exact .shown rfl hc hs

/-- Whether a list stalls is up to its own numbers. -/
theorem stalls_list_iff {ordered spread : Bool} {start : Option Count} {items : List Node}
    {m : List (String × Value)} :
    Stalls mode numbering (.container (.list ordered start spread) items m) ↔
      ∃ k c, items[k]? = some c ∧ Stalls mode (some ⟨ordered,start,some k⟩) c := by
  constructor
  · intro h
    cases h with
    | item hn _ => cases hn
    | shown hn _ _ => cases hn
    | listed hc hs => exact ⟨_,_,hc,hs⟩
  · rintro ⟨k,c,hc,hs⟩
    exact .listed hc hs

theorem stalls_table_iff {body rows : List Node} {header : Option Node} {align : List Value}
    {m : List (String × Value)} :
    Stalls mode numbering (.table body header rows align m) ↔
      mode ≠ .codeBlock ∧ ∃ row ∈ (Node.table body header rows align m).children,
        ∃ cell ∈ row.children, ∃ c ∈ cell.children, StallsBelow mode numbering c := by
  rw [stalls_iff rfl rfl]
  constructor
  · rintro ⟨c,hc,hs⟩
    obtain ⟨hm,row,hr,cell,hcell,hc⟩ := (mem_shownBelow_table rfl).mp hc
    exact ⟨hm,row,hr,cell,hcell,c,hc,hs⟩
  · rintro ⟨hm,row,hr,cell,hcell,c,hc,hs⟩
    exact ⟨c,(mem_shownBelow_table rfl).mpr ⟨hm,row,hr,cell,hcell,hc⟩,hs⟩

end

/-! ## Writing as far as it goes -/

/-- Writing gives a form, unless it comes to a number that is too long. -/
structure Written {α : Type} (stalls : Prop) (r : Except WriteError α) (form : α) : Prop where
  form : ¬stalls → r = .ok form
  stall : stalls → r = .error .longNumber

namespace Written
variable {α β : Type} {p q : Prop} {r : Except WriteError α} {a : α}

theorem ok (a : α) : Written False (.ok a) a := ⟨fun _ => rfl,False.elim⟩

theorem congr (h : p ↔ q) (hw : Written p r a) : Written q r a := propext h ▸ hw

theorem map (h : Written p r a) (f : α → β) : Written p (r.map f) (f a) where
  form hp := by rw [h.form hp]; rfl
  stall hp := by rw [h.stall hp]; rfl

/-- The first of two steps that stalls is the end of it, and either ends in the same way. -/
theorem bind {step : α → Except WriteError β} {b : β} (h : Written p r a)
    (hs : Written q (step a) b) : Written (p ∨ q) (r >>= step) b := by
  by_cases hp : p
  · rw [h.stall hp]
    exact ⟨fun hn => absurd (.inl hp) hn,fun _ => rfl⟩
  · -- the second step is only taken from here
    rw [h.form hp]
    exact hs.congr (or_iff_right hp).symm

theorem mapM {stalls : α → Prop} {xs : List α} {f : α → Except WriteError β} {g : α → β}
    (h : ∀ x ∈ xs, Written (stalls x) (f x) (g x)) :
    Written (∃ x ∈ xs, stalls x) (xs.mapM f) (xs.map g) := by
  induction xs with
  | nil => exact (ok []).congr (by simp)
  | cons x xs ih =>
    have hx := h x List.mem_cons_self
    have hs := ih fun y hy => h y (List.mem_cons_of_mem x hy)
    rw [List.mapM_cons,List.map_cons]
    exact (hx.bind (hs.map (g x :: ·))).congr (by simp)

theorem onChildren {n : Node} {step : (c : Node) → c ∈ n.children → ℕ → Except WriteError α}
    {stalls : Node → ℕ → Prop} {form : Node → ℕ → α}
    (h : ∀ c hc i, n.children[i]? = some c → Written (stalls c i) (step c hc i) (form c i)) :
    Written (∃ i c, n.children[i]? = some c ∧ stalls c i) (Render.onChildren n step)
      (n.children.zipIdx.map fun (c,i) => form c i) := by
  have hf : (n.children.attach.zipIdx.map fun (c,i) => form c.1 i) =
      n.children.zipIdx.map fun (c,i) => form c i := by
    conv_rhs => rw [← n.children.attach_map_subtype_val,List.zipIdx_map,List.map_map]
    rfl
  have hm : Written (∃ x ∈ n.children.attach.zipIdx, stalls x.1.1 x.2) (Render.onChildren n step)
      (n.children.attach.zipIdx.map fun (c,i) => form c.1 i) :=
    mapM fun x hx => h x.1.1 x.1.2 x.2 (mem_zipIdx_attach.mp hx)
  rw [← hf]
  refine hm.congr ⟨?_,?_⟩
  · rintro ⟨⟨⟨c,hc⟩,i⟩,hx,hs⟩
    exact ⟨i,c,mem_zipIdx_attach.mp hx,hs⟩
  · rintro ⟨i,c,hi,hs⟩
    exact ⟨(⟨c,List.mem_of_getElem? hi⟩,i),mem_zipIdx_attach.mpr hi,hs⟩

/-- Where positions make no difference, they make none in the form. -/
theorem onEachChild {n : Node} {step : (c : Node) → c ∈ n.children → ℕ → Except WriteError α}
    {stalls : Node → Prop} {form : Node → α}
    (h : ∀ c hc i, Written (stalls c) (step c hc i) (form c)) :
    Written (∃ c ∈ n.children, stalls c) (Render.onChildren n step) (n.children.map form) := by
  have hf : (n.children.zipIdx.map fun (c,_) => form c) = n.children.map form := by
    conv_rhs => rw [← List.zipIdx_map_fst 0 n.children,List.map_map]
    rfl
  rw [← hf]
  refine (onChildren fun c hc i _ => h c hc i).congr ⟨?_,?_⟩
  · rintro ⟨i,c,hi,hs⟩
    exact ⟨c,List.mem_of_getElem? hi,hs⟩
  · rintro ⟨c,hc,hs⟩
    obtain ⟨i,hi⟩ := List.mem_iff_getElem?.mp hc
    exact ⟨i,c,hi,hs⟩

end Written

theorem written_marker (numbering : Option Numbering) :
    Written (LongAt numbering) (writeMarker numbering) (marker numbering) := by
  cases numbering with
  | none => exact (Written.ok bullet).congr (by simp [LongAt])
  | some n =>
    have hl : LongAt (some n) ↔ n.ordered = true ∧ Number.isLong n.number = true := by
      simp [LongAt]
    unfold writeMarker marker writeNumber
    dsimp only
    split_ifs with ho hn
    · exact ⟨fun h => absurd (hl.mpr ⟨ho,hn⟩) h,fun _ => rfl⟩
    · exact (Written.ok _).congr (by simp [hl,hn])
    · exact (Written.ok _).congr (by simp [hl,ho])

/-! ## Nodes -/

/-- All nodes that are smaller than a bound are written as far as it goes. The bound is there for
quotes: the copy that is shown of one is no part of it, but it has its size. -/
def WrittenBelow (bound : ℕ) : Prop :=
  ∀ (context : RenderContext) (n : Node), n.size < bound →
    Written (Stalls context.tableMode context.numbering n) (writeNode context n)
      (nodeMarkup context n)

section
variable {context : RenderContext} {bound : ℕ} {n c : Node}

theorem written_row (context : RenderContext) (h : WrittenBelow bound) (hs : n.size ≤ bound) :
    Written (∃ c ∈ n.children, StallsBelow context.tableMode context.numbering c)
      (writeRow context n) (rowMarkup context n.children) :=
  (Written.onEachChild fun c hc _ =>
    h context.unplaced c (size_lt_of_size_le hs hc)).map List.flatten

theorem written_cells (context : RenderContext) (h : WrittenBelow bound) (hs : n.size ≤ bound) :
    Written (∃ row ∈ n.children, ∃ cell ∈ row.children, ∃ c ∈ cell.children,
        StallsBelow context.tableMode context.numbering c) (writeCells context n)
      (n.children.map fun row => row.children.map fun cell => rowMarkup context cell.children) :=
  Written.onEachChild fun row hr _ => Written.onEachChild fun cell hc _ => by
    have hr' := Node.size_lt_of_mem_children hr
    have hc' := Node.size_lt_of_mem_children hc
    exact written_row context h (by omega)

/-- The forms of the cells are found in all rows before rows without cells are left out. -/
theorem cellsMarkup_eq_filter (context : RenderContext) (rows : List Node) :
    (rows.map fun row => row.children.map fun cell => rowMarkup context cell.children).filter
      (fun row => !row.isEmpty) = cellsMarkup context rows := by
  simp [cellsMarkup,filledRows,List.filter_map,Function.comp_def]

variable {m : List (String × Value)}

theorem written_table (h : WrittenBelow bound) {body rows : List Node} {header : Option Node}
    {align : List Value} (hs : (Node.table body header rows align m).size ≤ bound) :
    Written
      (Stalls context.tableMode context.numbering (.table body header rows align m))
      (writeNode context (.table body header rows align m))
      (tableMarkup context (Node.tableRows body header rows)) := by
  have hc := written_cells context h hs
  rw [writeNode_table,tableMarkup]
  cases hm : context.tableMode with
  | codeBlock =>
    rw [writeCodeBlockTable_eq]
    exact (Written.ok _).congr (by simp [stalls_table_iff])
  | _ =>
    -- once the cells are written, a list of them always is
    rw [hm] at hc
    refine (hc.bind (q := False) ?_).congr (by simp [stalls_table_iff])
    rw [cellsMarkup_eq_filter,writeListTable_eq]
    exact .ok _

/-- A quote stalls whether or not its marker is there. -/
theorem written_quote (h : WrittenBelow bound) {cs : List Node}
    (hs : (Node.container .blockQuote cs m).size ≤ bound) :
    Written (Stalls context.tableMode context.numbering (.container .blockQuote cs m))
      (writeNode context (.container .blockQuote cs m))
      (quoteMarkup context (.container .blockQuote cs m)) := by
  have hq := alike_withoutMarker (.container .blockQuote cs m)
  have hk := hq.sameKind
  have hw := (size_withoutMarker (.container .blockQuote cs m)).symm
  rw [writeNode_quote]
  refine ((written_row context h (hw ▸ hs)).map _).congr ?_
  rw [← stalls_iff_children hk.isTable.symm hk.isList.symm hk.isListItem.symm]
  exact ⟨fun hc => hc.of_alike hq,fun hc => hc.of_alike hq.symm⟩

theorem written_list (h : WrittenBelow bound) {ordered spread : Bool} {start : Option Count}
    {items : List Node} (hs : (Node.container (.list ordered start spread) items m).size ≤ bound) :
    Written
      (Stalls context.tableMode context.numbering
        (.container (.list ordered start spread) items m))
      (writeNode context (.container (.list ordered start spread) items m))
      (listMarkup context ordered start items) := by
  have hi := (Written.onChildren (n := .container (.list ordered start spread) items m)
    fun c hc i _ => h (context.inList (context.listDepth + 1) ordered start (some i)) c
      (size_lt_of_size_le hs hc)).map List.flatten
  rw [writeNode_list]
  exact (hi.map _).congr stalls_list_iff.symm

/-- What an item shows of a child. A list among the children sets the numbers of its own items. -/
theorem written_part (h : WrittenBelow bound) (hs : c.size < bound) :
    Written (StallsBelow context.tableMode context.numbering c) (writePart context c)
      (partMarkup context c) := by
  cases c with
  | container kind cs m =>
    cases kind with
    | paragraph =>
      exact (written_row context h (Nat.le_of_lt hs)).congr
        (stallsBelow_iff_children rfl rfl rfl).symm
    | list =>
      refine ((h _ _ hs).map _).congr ?_
      rw [StallsBelow,stalls_list_iff,stalls_list_iff]
      rfl
    | _ => exact h context.unplaced _ hs
  | _ => exact h context.unplaced _ hs

theorem written_item (h : WrittenBelow bound) {checked : Option Bool} {parts : List Node}
    (hs : (Node.container (.listItem checked) parts m).size ≤ bound) :
    Written
      (Stalls context.tableMode context.numbering (.container (.listItem checked) parts m))
      (writeNode context (.container (.listItem checked) parts m))
      (itemMarkup context parts) := by
  have hp : Written (∃ c ∈ parts, StallsBelow context.tableMode context.numbering c)
      (writeChildren (.container (.listItem checked) parts m) fun c _ _ => writePart context c)
      (parts.flatMap (partMarkup context)) :=
    (Written.onEachChild fun c hc _ =>
      written_part h (size_lt_of_size_le hs hc)).map List.flatten
  rw [writeNode_item,stalls_item_iff]
  exact (written_marker _).bind (hp.map _)

theorem written_container (h : WrittenBelow bound) {kind : Container} {cs : List Node}
    (hs : (Node.container kind cs m).size ≤ bound) :
    Written (Stalls context.tableMode context.numbering (.container kind cs m))
      (writeNode context (.container kind cs m))
      (containerMarkup context kind cs m) := by
  have hc (hl : (Node.container kind cs m).isList = false)
      (hi : (Node.container kind cs m).isListItem = false) :
      Written (Stalls context.tableMode context.numbering (.container kind cs m))
        ((writeRow context (.container kind cs m)).map (enclose kind))
        (enclose kind (rowMarkup context cs)) :=
    ((written_row context h hs).map _).congr (stalls_iff_children rfl hl hi).symm
  cases kind with
  | blockQuote => exact written_quote h hs
  | list ordered start spread => exact written_list h hs
  | listItem checked => exact written_item h hs
  | _ =>
    rw [writeNode_container]
    · exact hc rfl rfl
    · rfl

theorem written_step (h : WrittenBelow bound) (hs : n.size ≤ bound) :
    Written (Stalls context.tableMode context.numbering n) (writeNode context n)
      (nodeMarkup context n) := by
  cases n with
  | leaf kind m =>
    have hl : ¬Stalls context.tableMode context.numbering (.leaf kind m) := by
      rw [stalls_iff_children rfl rfl rfl]
      rintro ⟨_,hc,-⟩
      cases hc
    rw [writeNode_leaf,nodeMarkup_leaf,writeLeaf_eq]
    exact (Written.ok _).congr (iff_of_false id hl)
  | container kind cs m =>
    rw [nodeMarkup_container]
    exact written_container h hs
  | table body header rows align m =>
    rw [nodeMarkup_table]
    exact written_table h hs
  | unknown name value cs m =>
    rw [writeNode_unknown,nodeMarkup_unknown]
    exact (written_row context h hs).congr (stalls_iff_children rfl rfl rfl).symm

theorem writtenBelow (bound : ℕ) : WrittenBelow bound := by
  induction bound with
  | zero => exact fun _ n h => absurd h (Nat.not_lt_zero n.size)
  | succ bound ih => exact fun _ n h => written_step ih (Nat.le_of_lt_succ h)

end

/-- Whatever the tree, it is written in its form, unless it comes to a number that is too long. -/
theorem written_writeNode (context : RenderContext) (n : Node) :
    Written (Stalls context.tableMode context.numbering n) (writeNode context n)
      (nodeMarkup context n) :=
  writtenBelow (n.size + 1) context n n.size.lt_succ_self

/-! ## Documents -/

section
variable (o : RenderOptions) (n : Node)

/-- Unless a document is checked, rendering gives its form or stops at a number that is too long. -/
theorem documentMarkup_unchecked :
    (¬Stalls o.tableMode none n ∧ documentMarkup { o with validateTree := false } n =
        .ok (String.ofList (nodeMarkup o.context n))) ∨
      (Stalls o.tableMode none n ∧ documentMarkup { o with validateTree := false } n =
        .error (notWritten n .longNumber)) := by
  have hd : documentMarkup { o with validateTree := false } n =
      ((writeNode o.context n).map String.ofList).mapError (notWritten n) := rfl
  have hw := written_writeNode o.context n
  rw [hd]
  by_cases hn : Stalls o.tableMode none n
  · exact .inr ⟨hn,by rw [hw.stall hn]; rfl⟩
  · exact .inl ⟨hn,by rw [hw.form hn]; rfl⟩

/-- A check makes no difference to a document with nothing to report, and refuses all others. -/
theorem documentMarkup_checked :
    documentMarkup { o with validateTree := true } n =
      if n.misplacements = [] then documentMarkup { o with validateTree := false } n
      else .error (malformed n.misplacements) := by
  unfold documentMarkup
  cases h : n.misplacements with
  | nil => rfl
  | cons problem rest => rfl

/-- Whatever the document, rendering gives its form, with two exceptions: it stops at a number that
is too long, and a check refuses misplaced nodes. No other step fails. -/
theorem documentMarkup_outcomes :
    ((¬Stalls o.tableMode none n ∧ documentMarkup { o with validateTree := false } n =
        .ok (String.ofList (nodeMarkup o.context n))) ∨
      (Stalls o.tableMode none n ∧ documentMarkup { o with validateTree := false } n =
        .error (notWritten n .longNumber))) ∧
    documentMarkup { o with validateTree := true } n =
      if n.misplacements = [] then documentMarkup { o with validateTree := false } n
      else .error (malformed n.misplacements) :=
  ⟨documentMarkup_unchecked o n,documentMarkup_checked o n⟩

end

/-- What is rendered of a document is its form. -/
theorem eq_of_documentMarkup {o : RenderOptions} {n : Node} {markup : String}
    (h : documentMarkup o n = .ok markup) : markup.toList = nodeMarkup o.context n := by
  have hu : documentMarkup { o with validateTree := false } n = .ok markup := by
    obtain ⟨validate,mode,headers⟩ := o
    cases validate with
    | false => exact h
    | true =>
      have hc := documentMarkup_checked ⟨true,mode,headers⟩ n
      rw [hc] at h
      split_ifs at h
      exact h
  rcases documentMarkup_unchecked o n with ⟨-,hn⟩ | ⟨-,hn⟩
  · rw [← Except.ok.inj (hn.symm.trans hu),String.toList_ofList]
  · cases hn.symm.trans hu

/-! ## Lists that cannot be numbered -/

/-- The last number that is written, by its distance from zero. -/
def lastNumber : ℤ := ((10^Number.maxDigits : ℕ) : ℤ) - 1

theorem longAt_after_lastNumber : LongAt (some ⟨true,some (.number lastNumber),some 1⟩) := by
  have hn (n : ℤ) : Numbering.number ⟨true,some (.number (n - 1)),some 1⟩ = n :=
    Int.sub_add_cancel n 1
  refine ⟨_,rfl,rfl,?_⟩
  rw [lastNumber,hn,Number.isLong_iff]
  exact Nat.le_of_eq (Int.natAbs_natCast _).symm

def longList : Value :=
  .object [("type",.text "list"),("ordered",.bool true),("start",.int lastNumber),
    ("children",.list [.object [("type",.text "listItem")],.object [("type",.text "listItem")]])]

theorem longList_not_rendered : ∃ n, Node.load .strict longList = .ok n ∧
    documentMarkup { validateTree := false } n = .error (notWritten n .longNumber) := by
  let item : Node := .container (.listItem none) [] []
  let list : Node := .container (.list true (some (.number lastNumber)) false) [item,item] []
  have hs : Stalls .codeBlock none list :=
    .listed (k := 1) (c := item) rfl (.item rfl longAt_after_lastNumber)
  refine ⟨list,rfl,?_⟩
  rcases documentMarkup_unchecked { validateTree := false } list with ⟨hn,-⟩ | ⟨-,hn⟩
  · exact absurd hs hn
  · exact hn

end ChatMarkup.Render
