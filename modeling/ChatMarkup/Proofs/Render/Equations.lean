import ChatMarkup.Render.Node
import Mathlib.Data.Nat.Notation

/-!
# Forms of nodes

The form of a node is found by recursion on its size, since a quote shows a tree that is not among
its children. Here it is given as equations, one for each shape of node, in which the proofs that
sizes go down no longer appear.
-/
namespace ChatMarkup.Render
open Text

def rowMarkup (context : RenderContext) (ns : List Node) : List Char :=
  ns.flatMap (nodeMarkup context.unplaced)

def quoteMarkup (context : RenderContext) (quote : Node) : List Char :=
  wrap (if isExpandable quote.rawText then "<blockquote expandable>" else "<blockquote>")
    "</blockquote>\n" (trim (rowMarkup context (withoutMarker quote).children))

/-- The items of a list, each with its position. -/
def itemsMarkup (context : RenderContext) (ordered : Bool) (start : Option Count)
    (items : List Node) : List Char :=
  items.zipIdx.flatMap fun (item,i) =>
    nodeMarkup (context.inList (context.listDepth + 1) ordered start (some i)) item

def listMarkup (context : RenderContext) (ordered : Bool) (start : Option Count)
    (items : List Node) : List Char :=
  let shown := itemsMarkup context ordered start items
  if context.listDepth == 0 then trimEnd shown ++ "\n\n".toList else shown

/-- What an item shows of one of its children: the inside of a paragraph, and a list that begins on
a line of its own. -/
def partMarkup (context : RenderContext) : Node → List Char
  | .container .paragraph cs _ => rowMarkup context cs
  | .container (.list ordered start spread) cs m =>
    '\n' :: trimEnd (nodeMarkup (context.inList (itemDepth context.listDepth) ordered start none)
      (.container (.list ordered start spread) cs m))
  | n => nodeMarkup context.unplaced n

def itemMarkup (context : RenderContext) (parts : List Node) : List Char :=
  indentation (itemDepth context.listDepth) ++ marker context.numbering ++
    parts.flatMap (partMarkup context) ++ ['\n']

def cellsMarkup (context : RenderContext) (rows : List Node) : List (List (List Char)) :=
  (filledRows rows).map fun cells => cells.map fun cell => rowMarkup context cell.children

def tableMarkup (context : RenderContext) (rows : List Node) : List Char :=
  match context.tableMode with
  | .codeBlock => codeBlockTable rows
  | mode => listTable mode context.includeTableHeaders (cellsMarkup context rows)

def linkMarkup (address shown : List Char) : List Char :=
  "<a href=\"".toList ++ escape address ++ "\">".toList ++ shown ++ "</a>".toList

def containerMarkup (context : RenderContext) (kind : Container) (cs : List Node)
    (metadata : List (String × Value)) : List Char :=
  match kind with
  | .document => trim (rowMarkup context cs)
  | .heading _ => wrap "<b>" "</b>\n\n" (rowMarkup context cs)
  | .paragraph => wrap "" "\n\n" (rowMarkup context cs)
  | .blockQuote => quoteMarkup context (.container .blockQuote cs metadata)
  | .list ordered start _ => listMarkup context ordered start cs
  | .listItem _ => itemMarkup context cs
  | .tableRow => rowMarkup context cs
  | .tableCell => rowMarkup context cs
  | .emphasis => wrap "<i>" "</i>" (rowMarkup context cs)
  | .strong => wrap "<b>" "</b>" (rowMarkup context cs)
  | .strikethrough => wrap "<s>" "</s>" (rowMarkup context cs)
  | .link url _ => linkMarkup url.toList (rowMarkup context cs)

section
variable (context : RenderContext) (m : List (String × Value))

theorem flatMap_attach {α β : Type} (l : List α) (f : α → List β) :
    (l.attach.flatMap fun ⟨x,_⟩ => f x) = l.flatMap f := by
  rw [List.flatMap_subtype (g := f) fun _ _ => rfl,List.unattach_attach]

theorem itemsMarkup_eq (ordered : Bool) (start : Option Count) (items : List Node) :
    itemsMarkup context ordered start items =
      items.attach.zipIdx.flatMap fun (⟨item,_⟩,i) =>
        nodeMarkup (context.inList (context.listDepth + 1) ordered start (some i)) item := by
  have h := congrArg (itemsMarkup context ordered start) items.attach_map_subtype_val
  rw [← h,itemsMarkup,List.zipIdx_map,List.flatMap_map]
  rfl

theorem cellsMarkup_eq (rows : List Node) :
    cellsMarkup context rows = rows.attach.filterMap fun ⟨row,_⟩ =>
      if row.children.isEmpty then none
      else some (row.children.attach.map fun ⟨cell,_⟩ =>
        cell.children.attach.flatMap fun ⟨c,_⟩ => nodeMarkup context.unplaced c) := by
  have hr (row : Node) : (row.children.attach.map fun ⟨cell,_⟩ =>
      cell.children.attach.flatMap fun ⟨c,_⟩ => nodeMarkup context.unplaced c) =
        row.children.map fun cell => rowMarkup context cell.children := by
    rw [List.map_subtype (g := fun cell => rowMarkup context cell.children),List.unattach_attach]
    exact fun cell _ => flatMap_attach cell.children (nodeMarkup context.unplaced)
  rw [List.filterMap_subtype (g := fun row => if row.children.isEmpty then none
    else some (row.children.map fun cell => rowMarkup context cell.children)),
    List.unattach_attach]
  · rw [cellsMarkup,filledRows]
    induction rows with
    | nil => rfl
    | cons row rows ih => 
      rw [List.map_cons,List.filterMap_cons]
      by_cases h : row.children.isEmpty
      · simpa [h] using ih
      · simpa [h] using ih
  · intro row _
    dsimp only
    rw [hr]

theorem nodeMarkup_leaf (kind : Leaf) :
    nodeMarkup context (.leaf kind m) = leafMarkup kind := by
  rw [nodeMarkup.eq_def]

theorem nodeMarkup_unknown (name : String) (value : Option String) (cs : List Node) :
    nodeMarkup context (.unknown name value cs m) = rowMarkup context cs := by
  rw [nodeMarkup.eq_def]
  exact flatMap_attach cs (nodeMarkup context.unplaced)

theorem nodeMarkup_table (body : List Node) (header : Option Node) (rows : List Node)
    (align : List Value) :
    nodeMarkup context (.table body header rows align m) =
      tableMarkup context (Node.tableRows body header rows) := by
  rw [nodeMarkup.eq_def,tableMarkup,cellsMarkup_eq]
  rfl

theorem nodeMarkup_container (kind : Container) (cs : List Node) :
    nodeMarkup context (.container kind cs m) =
      containerMarkup context kind cs m := by
  have hr : (cs.attach.flatMap fun ⟨c,_⟩ => nodeMarkup context.unplaced c) = rowMarkup context cs :=
    flatMap_attach cs (nodeMarkup context.unplaced)
  rw [nodeMarkup.eq_def]
  cases kind with
  | document => exact congrArg trim hr
  | heading _ => exact congrArg (wrap "<b>" "</b>\n\n") hr
  | paragraph => exact congrArg (wrap "" "\n\n") hr
  | blockQuote =>
    have hq := flatMap_attach (withoutMarker (.container .blockQuote cs m)).children
      (nodeMarkup context.unplaced)
    rw [containerMarkup,quoteMarkup,rowMarkup,← hq]
  | list ordered start _ => rw [containerMarkup,listMarkup,itemsMarkup_eq]
  | listItem _ =>
    dsimp only
    rw [containerMarkup,itemMarkup,List.flatMap_subtype (g := partMarkup context),
      List.unattach_attach]
    intro c _
    cases c with
    | leaf => rfl
    | table => rfl
    | unknown => rfl
    | container kind cs' m' =>
      cases kind with
      | paragraph => exact flatMap_attach cs' (nodeMarkup context.unplaced)
      | _ => rfl
  | tableRow => exact hr
  | tableCell => exact hr
  | emphasis => exact congrArg (wrap "<i>" "</i>") hr
  | strong => exact congrArg (wrap "<b>" "</b>") hr
  | strikethrough => exact congrArg (wrap "<s>" "</s>") hr
  | link url _ => exact congrArg (linkMarkup url.toList) hr

end

end ChatMarkup.Render
