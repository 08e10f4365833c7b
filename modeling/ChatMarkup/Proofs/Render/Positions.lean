import ChatMarkup.Options.Format
import ChatMarkup.Proofs.Render.Writing

/-!
# Lists are written by position

A context counts the lists around a node and names the innermost one. In a tree that is checked,
these say the same as the nodes above: an item is indented by the lists above it, takes its number
from its parent and its position in it, and only lists with no list above end in a blank line. This
is stated against a second way to write trees, which knows no context but the way from the root.
-/
namespace ChatMarkup.Render
open Text Node

/-! ## Writing by position -/

/-- The way from the root of a tree to a node: the nodes above it, nearest first, each with the
position of the child that comes next. -/
abbrev Way := List (Node × ℕ)

def listsAbove (way : Way) : ℕ := way.countP fun step => step.1.isList

theorem listsAbove_cons_of_isList {n : Node} (h : n.isList = true) (i : ℕ) (way : Way) :
    listsAbove ((n,i) :: way) = listsAbove way + 1 :=
  List.countP_cons_of_pos (by simp [h])

theorem listsAbove_cons_of_not_isList {n : Node} (h : n.isList = false) (i : ℕ) (way : Way) :
    listsAbove ((n,i) :: way) = listsAbove way :=
  List.countP_cons_of_neg (by simp [h])

/-- What stands before an item: an indentation for each further list above it, and its number in
the list that is its parent, or a bullet. -/
def itemStart (way : Way) : Except WriteError (List Char) :=
  let indentation := (List.replicate (listsAbove way - 1) indentUnit).flatten
  match way with
  | (.container (.list true start _) _ _,k) :: _ =>
    (writeNumber ((start.map Count.toInt).getD 1 + k)).map fun number =>
      indentation ++ number ++ ". ".toList
  | _ => .ok (indentation ++ bullet)

/-- Writes a node that is reached on a way. -/
def writeAt (o : RenderOptions) (way : Way) (node : Node) : Except WriteError (List Char) :=
  match _hn : node with
  | .leaf kind _ => writeLeaf kind
  | .unknown .. => writeChildren node fun c hc i =>
    have := size_lt_of_mem_children hc
    writeAt o ((node,i) :: way) c
  | .table .. =>
    match o.tableMode with
    | .codeBlock => writeCodeBlockTable node.children
    | mode => do
      let rows ← onChildren node fun row hr i => onChildren row fun cell hc j =>
        writeChildren cell fun c h k =>
          have := size_lt_of_mem_children hr
          have := size_lt_of_mem_children hc
          have := size_lt_of_mem_children h
          writeAt o ((cell,k) :: (row,j) :: (node,i) :: way) c
      writeListTable mode o.includeTableHeaders (rows.filter fun row => !row.isEmpty)
  | .container kind _ _ =>
    match kind with
    | .blockQuote =>
      match h : cutMarker node with
      | .error e => .error e
      | .ok quote =>
        (writeChildren quote fun c hc i =>
          have := size_cutMarker h ▸ size_lt_of_mem_children hc
          writeAt o ((quote,i) :: way) c).map (encloseQuote node.rawText)
    | .list .. =>
      (writeChildren node fun c hc i =>
        have := size_lt_of_mem_children hc
        writeAt o ((node,i) :: way) c).map fun items =>
          if listsAbove way = 0 then trimEnd items ++ "\n\n".toList else items
    | .listItem _ => do
      let start ← itemStart way
      let parts ← writeChildren node fun c hc i =>
        have := size_lt_of_mem_children hc
        match partOf c with
        | .content => writeChildren c fun d hd j =>
          have := size_lt_of_mem_children hd
          writeAt o ((c,j) :: (node,i) :: way) d
        | .nested .. => (writeAt o ((node,i) :: way) c).map fun nested => '\n' :: trimEnd nested
        | .whole => writeAt o ((node,i) :: way) c
      .ok (start ++ parts ++ ['\n'])
    | kind => (writeChildren node fun c hc i =>
      have := size_lt_of_mem_children hc
      writeAt o ((node,i) :: way) c).map (enclose kind)
termination_by node.size

/-! ## Equations -/

section
variable (o : RenderOptions) (way : Way) (m : List (String × Value))

def rowAt (n : Node) : Except WriteError (List Char) :=
  writeChildren n fun c _ i => writeAt o ((n,i) :: way) c

def cellsAt (table : Node) : Except WriteError (List (List (List Char))) :=
  onChildren table fun row _ i => onChildren row fun cell _ j =>
    rowAt o ((row,j) :: (table,i) :: way) cell

def partAt (c : Node) : Except WriteError (List Char) :=
  match partOf c with
  | .content => rowAt o way c
  | .nested .. => (writeAt o way c).map fun nested => '\n' :: trimEnd nested
  | .whole => writeAt o way c

theorem writeAt_leaf (kind : Leaf) : writeAt o way (.leaf kind m) = writeLeaf kind := by
  rw [writeAt.eq_def]

theorem writeAt_unknown (name : String) (value : Option String) (cs : List Node) :
    writeAt o way (.unknown name value cs m) = rowAt o way (.unknown name value cs m) := by
  rw [writeAt.eq_def]
  rfl

theorem writeAt_table (body : List Node) (header : Option Node) (rows : List Node)
    (align : List Value) :
    writeAt o way (.table body header rows align m) =
      match o.tableMode with
      | .codeBlock => writeCodeBlockTable (tableRows body header rows)
      | mode => (cellsAt o way (.table body header rows align m)).bind fun rows =>
        writeListTable mode o.includeTableHeaders (rows.filter fun row => !row.isEmpty) := by
  rw [writeAt.eq_def]
  rfl

theorem writeAt_quote (cs : List Node) :
    writeAt o way (.container .blockQuote cs m) =
      (rowAt o way (withoutMarker (.container .blockQuote cs m))).map
        (encloseQuote (Node.container .blockQuote cs m).rawText) := by
  rw [writeAt.eq_def]
  dsimp only
  split
  · next he => rw [cutMarker_eq] at he; cases he
  · next quote he =>
    rw [cutMarker_eq] at he
    obtain rfl := Except.ok.inj he
    rfl

theorem writeAt_list (ordered spread : Bool) (start : Option Count) (items : List Node) :
    writeAt o way (.container (.list ordered start spread) items m) =
      (rowAt o way (.container (.list ordered start spread) items m)).map fun items =>
        if listsAbove way = 0 then trimEnd items ++ "\n\n".toList else items := by
  rw [writeAt.eq_def]
  rfl

theorem writeAt_item (checked : Option Bool) (parts : List Node) :
    writeAt o way (.container (.listItem checked) parts m) =
      (itemStart way).bind fun start =>
        (writeChildren (.container (.listItem checked) parts m) fun c _ i =>
          partAt o ((.container (.listItem checked) parts m,i) :: way) c).bind fun parts =>
            .ok (start ++ parts ++ ['\n']) := by
  rw [writeAt.eq_def]
  rfl

theorem writeAt_container {kind : Container} (hk : isEnclosed kind = true) (cs : List Node) :
    writeAt o way (.container kind cs m) =
      (rowAt o way (.container kind cs m)).map (enclose kind) := by
  rw [writeAt.eq_def]
  cases kind with
  | blockQuote => cases hk
  | list => cases hk
  | listItem => cases hk
  | _ => rfl

end

/-! ## Contexts and ways -/

/-- A context says how tables are shown, and how many lists there are on a way. -/
structure Agrees (o : RenderOptions) (context : RenderContext) (way : Way) : Prop where
  depth : context.listDepth = listsAbove way
  tableMode : context.tableMode = o.tableMode
  headers : context.includeTableHeaders = o.includeTableHeaders

/-- The list that a context names is the parent at the end of a way, and the node is found in it
where the way goes on. -/
def Names (context : RenderContext) (way : Way) : Prop :=
  ∃ ordered start spread items m place rest,
    way = (.container (.list ordered start spread) items m,place) :: rest ∧
      context.numbering = some ⟨ordered,start,some place⟩

section
variable {o : RenderOptions} {context : RenderContext} {way : Way} {bound : ℕ} {n c : Node}

theorem Agrees.step (h : Agrees o context way) (hn : n.isList = false) (i : ℕ) :
    Agrees o context ((n,i) :: way) where
  depth := by rw [h.depth,listsAbove_cons_of_not_isList hn]
  tableMode := h.tableMode
  headers := h.headers

theorem Agrees.unplaced (h : Agrees o context way) : Agrees o context.unplaced way :=
  ⟨h.depth,h.tableMode,h.headers⟩

/-- One list more is one level deeper. -/
theorem Agrees.list (h : Agrees o context way) (hn : n.isList = true) (i : ℕ) (ordered : Bool)
    (start : Option Count) (place : Option ℕ) :
    Agrees o (context.inList (context.listDepth + 1) ordered start place) ((n,i) :: way) where
  depth := by
    rw [listsAbove_cons_of_isList hn,RenderContext.inList,h.depth]
    rfl
  tableMode := h.tableMode
  headers := h.headers

/-- Below a list, the depth is not zero. -/
theorem Agrees.depth_ne_zero (h : Agrees o context way) (hi : Names context way) :
    context.listDepth ≠ 0 := by
  obtain ⟨_,_,_,_,_,_,_,rfl,-⟩ := hi
  have hd := h.depth
  rw [listsAbove_cons_of_isList rfl] at hd
  omega

theorem not_isListItem (h : InPlace n c) (hn : n.isList = false) : c.isListItem = false := by
  by_contra hc
  have hl := h.item (by simpa using hc)
  simp [hn] at hl

/-- All nodes that are smaller than a bound are written in a context as on a way that agrees. -/
def AgreesBelow (o : RenderOptions) (bound : ℕ) : Prop :=
  ∀ (context : RenderContext) (way : Way) (n : Node), n.size < bound →
    Agrees o context way → WellPlaced n → (n.isListItem = true → Names context way) →
      writeNode context n = writeAt o way n

/-- Where no list is left, no child is an item. -/
theorem AgreesBelow.child (h : AgreesBelow o bound) (ha : Agrees o context way)
    (hw : WellPlaced n) (hn : n.isList = false) (hc : c ∈ n.children) (hs : c.size < bound)
    (i : ℕ) : writeNode context.unplaced c = writeAt o ((n,i) :: way) c := by
  refine h context.unplaced _ c hs (ha.step hn i).unplaced (hw.child hc) fun hi => ?_
  rw [not_isListItem (hw.root c hc) hn] at hi
  cases hi

theorem writeRow_eq (h : AgreesBelow o bound) (ha : Agrees o context way) (hw : WellPlaced n)
    (hn : n.isList = false) (hs : n.size ≤ bound) : writeRow context n = rowAt o way n := by
  refine congrArg (writeChildren n) ?_
  funext c hc i
  exact h.child ha hw hn hc (size_lt_of_size_le hs hc) i

theorem isList_of_isTableRow (h : n.isTableRow = true) : n.isList = false := by
  unfold isTableRow at h
  split at h
  · rfl
  · cases h

theorem isList_of_isTableCell (h : n.isTableCell = true) : n.isList = false := by
  unfold isTableCell at h
  split at h
  · rfl
  · cases h

/-- A table holds rows and these hold cells, so no list comes in between. -/
theorem writeCells_eq (h : AgreesBelow o bound) (ha : Agrees o context way) (hw : WellPlaced n)
    (hn : n.isTable = true) (hl : n.isList = false) (hs : n.size ≤ bound) :
    writeCells context n = cellsAt o way n := by
  refine congrArg (onChildren n) ?_
  funext row hr i
  have hrow := (hw.root row hr).row hn
  refine congrArg (onChildren row) ?_
  funext cell hc j
  have hcell := ((hw.child hr).root cell hc).cell hrow
  have hr' := size_lt_of_mem_children hr
  have hc' := size_lt_of_mem_children hc
  exact writeRow_eq h ((ha.step hl i).step (isList_of_isTableRow hrow) j)
    ((hw.child hr).child hc) (isList_of_isTableCell hcell) (by omega)

/-- An item is below its list, so it is indented by one level less than there are lists. -/
theorem itemStart_eq (ha : Agrees o context way) (hi : Names context way) :
    (writeMarker context.numbering).map
      (indentation (itemDepth context.listDepth) ++ ·) = itemStart way := by
  have hz := ha.depth_ne_zero hi
  obtain ⟨ordered,start,spread,items,m,place,rest,rfl,hn⟩ := hi
  have hc := listsAbove_cons_of_isList (n := .container (.list ordered start spread) items m) rfl
    place rest
  have hl : (itemDepth context.listDepth - 1).toNat = listsAbove rest := by
    rw [itemDepth,if_neg (by simpa using hz),ha.depth,hc]
    omega
  rw [hn,indentation,hl]
  cases ordered with
  | false => rw [writeMarker,itemStart.eq_def,hc]; rfl
  | true =>
    simp only [writeMarker,itemStart,hc,if_true,Numbering.number,Option.getD_some,
      Nat.add_sub_cancel]
    cases writeNumber ((start.map Count.toInt).getD 1 + place) with
    | error e => rfl
    | ok number => simp [Except.map]

/-- A list in an item gets the depth of the item, which is that of the list around both. -/
theorem Agrees.nested (h : Agrees o context way) (hz : context.listDepth ≠ 0) (ordered : Bool)
    (start : Option Count) (place : Option ℕ) :
    Agrees o (context.inList (itemDepth context.listDepth) ordered start place) way where
  depth := by
    rw [← h.depth,itemDepth,if_neg (by simpa using hz)]
    rfl
  tableMode := h.tableMode
  headers := h.headers

theorem writePart_eq (h : AgreesBelow o bound) (ha : Agrees o context way)
    (hz : context.listDepth ≠ 0) (hw : WellPlaced n) (hn : n.isList = false)
    (hc : c ∈ n.children) (hs : c.size < bound) (i : ℕ) :
    writePart context c = partAt o ((n,i) :: way) c := by
  have hchild := h.child ha hw hn hc hs i
  cases c with
  | leaf => exact hchild
  | table => exact hchild
  | unknown => exact hchild
  | container kind cs m =>
    cases kind with
    | paragraph => exact writeRow_eq h (ha.step hn i) (hw.child hc) rfl (Nat.le_of_lt hs)
    | list ordered start spread =>
      have hl := h _ _ _ hs ((ha.step hn i).nested hz ordered start none) (hw.child hc) nofun
      exact congrArg (Except.map fun nested => '\n' :: trimEnd nested) hl
    | _ => exact hchild

/-! ## Nodes -/

theorem writeItem_eq (h : AgreesBelow o bound) (ha : Agrees o context way)
    {checked : Option Bool} {parts : List Node} {m : List (String × Value)}
    (hw : WellPlaced (.container (.listItem checked) parts m))
    (hi : Names context way)
    (hs : (Node.container (.listItem checked) parts m).size ≤ bound) :
    writeNode context (.container (.listItem checked) parts m) =
      writeAt o way (.container (.listItem checked) parts m) := by
  have hz := ha.depth_ne_zero hi
  have hp : (writeChildren (.container (.listItem checked) parts m) fun c _ _ =>
      writePart context c) = writeChildren (.container (.listItem checked) parts m) fun c _ i =>
        partAt o ((.container (.listItem checked) parts m,i) :: way) c := by
    refine congrArg (writeChildren _) ?_
    funext c hc i
    exact writePart_eq h ha hz hw rfl hc (size_lt_of_size_le hs hc) i
  rw [writeNode_item,writeAt_item,hp,← itemStart_eq ha hi]
  cases writeMarker context.numbering <;> rfl

/-- The children of a list are one level deeper, and the list is the parent of each item. -/
theorem writeList_eq (h : AgreesBelow o bound) (ha : Agrees o context way)
    {ordered spread : Bool} {start : Option Count} {items : List Node}
    {m : List (String × Value)}
    (hw : WellPlaced (.container (.list ordered start spread) items m))
    (hs : (Node.container (.list ordered start spread) items m).size ≤ bound) :
    writeNode context (.container (.list ordered start spread) items m) =
      writeAt o way (.container (.list ordered start spread) items m) := by
  have hi : (writeChildren (.container (.list ordered start spread) items m) fun c _ i =>
      writeNode (context.inList (context.listDepth + 1) ordered start (some i)) c) =
        rowAt o way (.container (.list ordered start spread) items m) := by
    refine congrArg (writeChildren _) ?_
    funext c hc i
    exact h _ _ c (size_lt_of_size_le hs hc)
      (ha.list rfl i ordered start (some i)) (hw.child hc) fun _ =>
        ⟨ordered,start,spread,items,m,i,way,rfl,rfl⟩
  rw [writeNode_list,writeAt_list,hi]
  simp [ha.depth]

theorem writeContainer_eq (h : AgreesBelow o bound) (ha : Agrees o context way)
    {kind : Container} {cs : List Node} {m : List (String × Value)}
    (hw : WellPlaced (.container kind cs m))
    (hi : (Node.container kind cs m).isListItem = true → Names context way)
    (hs : (Node.container kind cs m).size ≤ bound) :
    writeNode context (.container kind cs m) = writeAt o way (.container kind cs m) := by
  cases kind with
  | blockQuote =>
    have hq := alike_withoutMarker (.container .blockQuote cs m)
    have hz := size_withoutMarker (.container .blockQuote cs m)
    rw [writeNode_quote,writeAt_quote,
      writeRow_eq h ha (hq.wellPlaced.mp hw) hq.sameKind.isList.symm (by omega)]
  | list ordered start spread => exact writeList_eq h ha hw hs
  | listItem checked => exact writeItem_eq h ha hw (hi rfl) hs
  | _ =>
    rw [writeNode_container,writeAt_container,writeRow_eq h ha hw rfl hs]
    · rfl
    · rfl

theorem writeStep_eq (h : AgreesBelow o bound) (ha : Agrees o context way) (hw : WellPlaced n)
    (hi : n.isListItem = true → Names context way) (hs : n.size ≤ bound) :
    writeNode context n = writeAt o way n := by
  cases n with
  | leaf kind m => rw [writeNode_leaf,writeAt_leaf]
  | container kind cs m => exact writeContainer_eq h ha hw hi hs
  | table body header rows align m =>
    rw [writeNode_table,ha.tableMode,ha.headers,writeCells_eq h ha hw rfl rfl hs]
    exact (writeAt_table o way m body header rows align).symm
  | unknown name value cs m =>
    rw [writeNode_unknown,writeAt_unknown,writeRow_eq h ha hw rfl hs]

end

theorem agreesBelow (o : RenderOptions) (bound : ℕ) : AgreesBelow o bound := by
  induction bound with
  | zero => exact fun _ _ n h => absurd h (Nat.not_lt_zero n.size)
  | succ bound ih =>
    exact fun _ _ n h ha hw hi => writeStep_eq ih ha hw hi (Nat.le_of_lt_succ h)

/-- A tree of which nothing is reported is written by position, unless it is a lone item. -/
theorem writeNode_eq_writeAt (o : RenderOptions) {n : Node} (h : n.misplacements = [])
    (hi : n.isListItem = false) : writeNode o.context n = writeAt o [] n := by
  have ha : Agrees o o.context [] := ⟨rfl,rfl,rfl⟩
  refine agreesBelow o (n.size + 1) o.context [] n n.size.lt_succ_self ha
    (misplacements_eq_nil_iff.mp h) fun hn => ?_
  rw [hi] at hn
  cases hn

/-- Two equal items of a list that begins at three, each with a quote around a list. -/
def sampleLists : Node :=
  let inner : Node := .container (.list false none false)
    [.container (.listItem none) [.container .paragraph [.text "b"] []] []] []
  let item : Node := .container (.listItem none)
    [.container .paragraph [.text "a"] [],.container .blockQuote [inner] []] []
  .document [.container (.list true (some (.number 3)) false) [item,item] []]

theorem writeNode_sampleLists :
    (sampleLists.misplacements = [] ∧ sampleLists.isListItem = false) ∧
      writeNode (RenderOptions.context {}) sampleLists = writeAt {} [] sampleLists :=
  ⟨⟨rfl,rfl⟩,writeNode_eq_writeAt {} rfl rfl⟩

example : (writeAt {} [] sampleLists).map String.ofList = .ok
    ("3. a<blockquote>&#160;&#160;&#160;&#160;• b</blockquote>\n\n" ++
      "4. a<blockquote>&#160;&#160;&#160;&#160;• b</blockquote>") := by
  decide +kernel

end ChatMarkup.Render
