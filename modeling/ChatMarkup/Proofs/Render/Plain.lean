import ChatMarkup.Proofs.Render.Outcomes
import ChatMarkup.Proofs.Tree.Plain

/-!
# Trees that are shown alike

A tree is written like its plain tree, in every context. So two trees that readers cannot tell apart
are written alike, and a document of the one fails or succeeds like a document of the other. The
induction is on the size of the tree, as a quote may show a copy of itself that was cut.
-/
namespace ChatMarkup.Render
open Text Node

/-! ## Tables and quotes -/

theorem codeBlockTable_plain (rows : List Node) :
    codeBlockTable (rows.map plain) = codeBlockTable rows := by
  have hf : filledRows (rows.map plain) = (filledRows rows).map fun cells =>
      cells.map plain := by
    simp [filledRows,List.filter_map,Function.comp_def,children_plain]
  have hp (cell : Node) : plainCell cell.plain = plainCell cell := by
    rw [plainCell,rawText_plain,plainCell]
  rw [codeBlockTable,hf,codeBlockTable]
  simp [Function.comp_def,hp]

theorem withoutMarker_plain (quote : Node) :
    withoutMarker quote.plain = (withoutMarker quote).plain := by
  unfold withoutMarker
  rw [rawText_plain,lastTextPath?_plain]
  split
  · cases quote.lastTextPath? Spoiler.marker with
    | none => rfl
    | some path =>
      dsimp only
      rw [cutTextAt_plain]
      cases quote.cutTextAt (path.map Int.ofNat) Spoiler.marker.length <;> rfl
  · rfl

theorem partOf_plain (n : Node) : partOf n.plain = partOf n := by
  cases n with
  | leaf => rw [plain_leaf]; rfl
  | container kind cs m =>
    rw [plain_container]
    cases kind <;> rfl
  | table => rw [plain_table]; rfl
  | unknown => rw [plain_unknown]; rfl

/-! ## Nodes -/

section
variable {α : Type} {context : RenderContext} {bound : ℕ} {n : Node}

theorem onChildren_plain {f : (c : Node) → c ∈ n.plain.children → ℕ → Except WriteError α}
    {g : (c : Node) → c ∈ n.children → ℕ → Except WriteError α}
    (h : ∀ c hd hc i, f (plain c) hd i = g c hc i) :
    onChildren n.plain f = onChildren n g := by
  refine onChildren_congr (by simp [children_plain]) fun d hd c hc i hdi hci => ?_
  rw [children_plain,List.getElem?_map,hci] at hdi
  obtain rfl := Option.some.inj hdi
  exact h c hd hc i

theorem writeChildren_plain
    {f : (c : Node) → c ∈ n.plain.children → ℕ → Except WriteError (List Char)}
    {g : (c : Node) → c ∈ n.children → ℕ → Except WriteError (List Char)}
    (h : ∀ c hd hc i, f (plain c) hd i = g c hc i) :
    writeChildren n.plain f = writeChildren n g :=
  congrArg (Except.map List.flatten) (onChildren_plain h)

def SameBelow (bound : ℕ) : Prop :=
  ∀ (context : RenderContext) (n : Node), n.size < bound →
    writeNode context n.plain = writeNode context n

theorem writeRow_plain (h : SameBelow bound) (hs : n.size ≤ bound) :
    writeRow context n.plain = writeRow context n :=
  writeChildren_plain fun c _ hc _ =>
    h context.unplaced c (size_lt_of_size_le hs hc)

theorem writeCells_plain (h : SameBelow bound) (hs : n.size ≤ bound) :
    writeCells context n.plain = writeCells context n := by
  refine onChildren_plain fun row _ hr _ => onChildren_plain fun cell _ hc _ => ?_
  have hr' := size_lt_of_mem_children hr
  have hc' := size_lt_of_mem_children hc
  exact writeRow_plain h (by omega)

theorem writePart_plain (h : SameBelow bound) (hs : n.size < bound) :
    writePart context n.plain = writePart context n := by
  rw [writePart,partOf_plain,writePart]
  cases partOf n with
  | content => exact writeRow_plain h (Nat.le_of_lt hs)
  | nested ordered start =>
    dsimp only
    rw [h _ n hs]
  | whole => exact h context.unplaced n hs

theorem writeTable_plain (h : SameBelow bound) {body rows : List Node}
    {header : Option Node} {align : List Value} {metadata : List (String × Value)}
    (hs : (Node.table body header rows align metadata).size ≤ bound) :
    writeNode context (Node.table body header rows align metadata).plain =
      writeNode context (.table body header rows align metadata) := by
  have hc : writeCells context (Node.table body header rows align metadata).plain =
      writeCells context (.table body header rows align metadata) := writeCells_plain h hs
  have hr : tableRows ((tableRows body header rows).map plain) none [] =
      (tableRows body header rows).map plain := rfl
  rw [plain_table] at hc ⊢
  rw [writeNode_table,writeNode_table,hc,writeCodeBlockTable_eq,writeCodeBlockTable_eq,hr,
    codeBlockTable_plain]

theorem writeContainer_plain (h : SameBelow bound) {kind : Container}
    {cs : List Node} {metadata : List (String × Value)}
    (hs : (Node.container kind cs metadata).size ≤ bound) :
    writeNode context (Node.container kind cs metadata).plain =
      writeNode context (.container kind cs metadata) := by
  have hl : ∀ c ∈ (Node.container kind cs metadata).children, c.size < bound := fun _ hc =>
    size_lt_of_size_le hs hc
  cases kind with
  | blockQuote =>
    have hp : (Node.container .blockQuote cs metadata).plain =
        .container .blockQuote (cs.map plain) [] := plain_container ..
    have hw := (size_withoutMarker (.container .blockQuote cs metadata)).trans_le hs
    rw [hp,writeNode_quote,writeNode_quote,← hp,rawText_plain,withoutMarker_plain,
      writeRow_plain h hw]
  | list ordered start spread =>
    have hp : (Node.container (.list ordered start spread) cs metadata).plain =
        .container (.list ordered start spread) (cs.map plain) [] := plain_container ..
    rw [hp,writeNode_list,writeNode_list,← hp,
      writeChildren_plain fun c _ hc _ => h _ c (hl c hc)]
  | listItem checked =>
    have hp : (Node.container (.listItem checked) cs metadata).plain =
        .container (.listItem checked) (cs.map plain) [] := plain_container ..
    rw [hp,writeNode_item,writeNode_item,← hp,
      writeChildren_plain fun c _ hc _ => writePart_plain h (hl c hc)]
  | _ =>
    rw [plain_container,writeNode_container,writeNode_container,← plain_container metadata,
      writeRow_plain h hs]
    · rfl
    · rfl
    · rfl

theorem same_step (h : SameBelow bound) (hs : n.size ≤ bound) :
    writeNode context n.plain = writeNode context n := by
  cases n with
  | leaf => rw [plain_leaf,writeNode_leaf,writeNode_leaf]
  | container kind cs metadata => exact writeContainer_plain h hs
  | table body header rows align metadata => exact writeTable_plain h hs
  | unknown name value cs metadata =>
    have hp := plain_unknown metadata cs name value
    rw [hp,writeNode_unknown,writeNode_unknown,← hp,writeRow_plain h hs]

end

theorem sameBelow (bound : ℕ) : SameBelow bound := by
  induction bound with
  | zero => exact fun _ n h => absurd h (Nat.not_lt_zero n.size)
  | succ bound ih => exact fun _ n h => same_step ih (Nat.le_of_lt_succ h)

theorem writeNode_plain (context : RenderContext) (n : Node) :
    writeNode context n.plain = writeNode context n :=
  sameBelow (n.size + 1) context n n.size.lt_succ_self

/-! ## Trees that readers cannot tell apart -/

section
variable {n m : Node} (h : n.plain = m.plain)
include h

theorem writeNode_congr (context : RenderContext) :
    writeNode context n = writeNode context m := by
  rw [← writeNode_plain,h,writeNode_plain]

theorem documentMarkup_congr (o : RenderOptions) : documentMarkup o n = documentMarkup o m := by
  have hk : n.kindName = m.kindName := by
    rw [← (sameKind_plain n).kindName,h,(sameKind_plain m).kindName]
  have hm : n.misplacements = m.misplacements := by
    rw [← misplacements_plain,h,misplacements_plain]
  have hw : notWritten n = notWritten m := funext fun e => by rw [notWritten,notWritten,hk]
  rw [documentMarkup,documentMarkup,hm,hw,writeNode_congr h]

end

end ChatMarkup.Render
