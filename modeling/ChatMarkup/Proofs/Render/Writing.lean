import ChatMarkup.Proofs.Data.Outcomes
import ChatMarkup.Proofs.Render.Equations
import ChatMarkup.Proofs.Tree.Cutting
import ChatMarkup.Render.Writing

/-!
# How trees are written

No step that could fail is taken where it would. A path comes from a search in the same tree, two
lines of a table have a first row, a row that is not blank has a first cell, and a malformed address
is caught. What remains are numbers that are too long. The way a node is written is given here as
equations, one for each shape of node, in which the proofs that sizes go down no longer appear.
-/
namespace ChatMarkup.Render
open Text

/-! ## Leaves and tables -/

section
variable (mode : TableMode) (names : List (List Char))

theorem findEmojiId_eq (address : List Char) : findEmojiId address = .ok (emojiId? address) := by
  unfold findEmojiId emojiId? queryOf Url.queryValue?
  split
  · cases Url.query? address <;> rfl
  · rfl

theorem writeImage_eq (address : List Char) (alt : Option String) :
    writeImage address alt = .ok (imageMarkup address alt) := by
  rw [writeImage,findEmojiId_eq,imageMarkup]
  cases emojiId? address <;> rfl

theorem writeLeaf_eq (kind : Leaf) : writeLeaf kind = .ok (leafMarkup kind) := by
  cases kind with
  | image url alt title => exact writeImage_eq url.toList alt
  | _ => rfl

theorem firstFilledRow_eq {rows : List Node} {cells : List Node} {rest : List (List Node)}
    (h : filledRows rows = cells :: rest) : firstFilledRow rows = .ok cells := by
  have hf := congrArg List.head? h
  rw [filledRows,List.head?_filter,List.find?_map,List.head?_cons,Option.map_eq_some_iff] at hf
  obtain ⟨row,hr,rfl⟩ := hf
  unfold firstFilledRow
  rw [show rows.find? (fun row => !row.children.isEmpty) = some row from hr]

/-- From two lines on, there is a row with cells to take the width of the line below it from. -/
theorem writeCodeBlockTable_eq (rows : List Node) :
    writeCodeBlockTable rows = .ok (codeBlockTable rows) := by
  rw [writeCodeBlockTable,codeBlockTable]
  cases h : filledRows rows with
  | nil => rfl
  | cons cells rest =>
    cases rest with
    | nil => rfl
    | cons cells' rest =>
      have hl : ¬rest.length + 1 + 1 < 2 := by omega
      rw [firstFilledRow_eq h]
      simp [sourceLines,bind,Except.bind,hl,Function.comp_def]

/-- A row without cells is blank, so there is a first cell wherever it is taken. -/
theorem writeRowLines_eq (values : List (List Char)) :
    writeRowLines mode names values = .ok (rowLines mode names values) := by
  unfold writeRowLines
  split
  · next h =>
    cases values with
    | nil => rfl
    | cons label rest =>
      rw [rowLines.eq_def]
      dsimp only
      rw [if_pos (by simpa using h)]
  · cases values with
    | nil => simp_all
    | cons label rest => rfl

theorem writeListTable_eq (includeHeaders : Bool) (rows : List (List (List Char))) :
    writeListTable mode includeHeaders rows = .ok (listTable mode includeHeaders rows) := by
  unfold writeListTable listTable
  generalize splitHeader (rows.map fun row => row.map trim) = parts
  have hm (names : List (List Char)) : parts.2.mapM (writeRowLines mode names) =
      .ok (parts.2.map (rowLines mode names)) := by
    rw [funext (writeRowLines_eq mode names)]
    exact List.mapM_pure
  simp only [hm,Except.map,List.flatMap_def]

end

/-! ## Quotes -/

/-- Cutting the marker of a quote always succeeds. -/
theorem cutMarker_eq (quote : Node) : cutMarker quote = .ok (withoutMarker quote) := by
  unfold cutMarker withoutMarker
  split
  · cases hp : quote.lastTextPath? Spoiler.marker with
    | none => rfl
    | some path =>
      obtain ⟨m,hm⟩ := Node.exists_cutTextAt hp Spoiler.marker.length
      simp only [hm]
      rfl
  · rfl

theorem alike_withoutMarker (quote : Node) : Node.Alike quote (withoutMarker quote) := by
  unfold withoutMarker
  split
  · split
    · exact .refl quote
    · split
      · next hc => exact Node.alike_cutTextAt hc
      · exact .refl quote
  · exact .refl quote

/-! ## Children -/

theorem mem_zipIdx_attach {cs : List Node} {c : Node} {hc : c ∈ cs} {i : ℕ} :
    (⟨c,hc⟩,i) ∈ cs.attach.zipIdx ↔ cs[i]? = some c := by
  rw [List.mem_zipIdx_iff_getElem?]
  conv_rhs => rw [← cs.attach_map_subtype_val,List.getElem?_map,Option.map_eq_some_iff]
  constructor
  · exact fun h => ⟨_,h,rfl⟩
  · rintro ⟨x,hx,rfl⟩
    exact hx

/-- Steps on children that agree at every position agree on all children. -/
theorem onChildren_congr {α : Type} {n m : Node}
    {f : (c : Node) → c ∈ n.children → ℕ → Except WriteError α}
    {g : (c : Node) → c ∈ m.children → ℕ → Except WriteError α}
    (hl : n.children.length = m.children.length)
    (h : ∀ c hc d hd i, n.children[i]? = some c → m.children[i]? = some d → f c hc i = g d hd i) :
    onChildren n f = onChildren m g := by
  have hm (k : Node) (step : (c : Node) → c ∈ k.children → ℕ → Except WriteError α) :
      onChildren k step =
        (k.children.attach.zipIdx.map fun (c,i) => step c.1 c.2 i).mapM id := by
    rw [List.mapM_map]
    rfl
  rw [hm,hm]
  congr 1
  refine List.ext_getElem (by simp [hl]) fun i hi hj => ?_
  simp only [List.length_map,List.length_zipIdx,List.length_attach] at hi hj
  simp only [List.getElem_map,List.getElem_zipIdx,List.getElem_attach,Nat.zero_add]
  exact h _ _ _ _ i (List.getElem?_eq_getElem hi) (List.getElem?_eq_getElem hj)

/-! ## Equations -/

/-- The kind has the same around its content wherever it stands. -/
def isEnclosed : Container → Bool
  | .blockQuote => false
  | .list .. => false
  | .listItem _ => false
  | _ => true

section
variable (context : RenderContext) (m : List (String × Value))

def writeRow (n : Node) : Except WriteError (List Char) :=
  writeChildren n fun c _ _ => writeNode context.unplaced c

def writeCells (table : Node) : Except WriteError (List (List (List Char))) :=
  onChildren table fun row _ _ => onChildren row fun cell _ _ => writeRow context cell

def writePart (c : Node) : Except WriteError (List Char) :=
  match partOf c with
  | .content => writeRow context c
  | .nested ordered start =>
    (writeNode (context.inList (itemDepth context.listDepth) ordered start none) c).map
      fun nested => '\n' :: trimEnd nested
  | .whole => writeNode context.unplaced c

theorem writeNode_leaf (kind : Leaf) : writeNode context (.leaf kind m) = writeLeaf kind := by
  rw [writeNode.eq_def]

theorem writeNode_unknown (name : String) (value : Option String) (cs : List Node) :
    writeNode context (.unknown name value cs m) =
      writeRow context (.unknown name value cs m) := by
  rw [writeNode.eq_def]
  rfl

theorem writeNode_table (body : List Node) (header : Option Node) (rows : List Node)
    (align : List Value) :
    writeNode context (.table body header rows align m) =
      match context.tableMode with
      | .codeBlock => writeCodeBlockTable (Node.tableRows body header rows)
      | mode => (writeCells context (.table body header rows align m)).bind fun rows =>
        writeListTable mode context.includeTableHeaders (rows.filter fun row => !row.isEmpty) := by
  rw [writeNode.eq_def]
  rfl

/-- A quote shows what is left of it once its marker is cut. -/
theorem writeNode_quote (cs : List Node) :
    writeNode context (.container .blockQuote cs m) =
      (writeRow context (withoutMarker (.container .blockQuote cs m))).map
        (encloseQuote (Node.container .blockQuote cs m).rawText) := by
  rw [writeNode.eq_def]
  dsimp only
  split
  · next he => rw [cutMarker_eq] at he; cases he
  · next quote he =>
    rw [cutMarker_eq] at he
    obtain rfl := Except.ok.inj he
    rfl

theorem writeNode_list (ordered spread : Bool) (start : Option Count) (items : List Node) :
    writeNode context (.container (.list ordered start spread) items m) =
      (writeChildren (.container (.list ordered start spread) items m) fun c _ i =>
        writeNode (context.inList (context.listDepth + 1) ordered start (some i)) c).map
          fun items => if context.listDepth == 0 then trimEnd items ++ "\n\n".toList else items := by
  rw [writeNode.eq_def]

theorem writeNode_item (checked : Option Bool) (parts : List Node) :
    writeNode context (.container (.listItem checked) parts m) = (do
      let marker ← writeMarker context.numbering
      let shown ← writeChildren (.container (.listItem checked) parts m) fun c _ _ =>
        writePart context c
      .ok (indentation (itemDepth context.listDepth) ++ marker ++ shown ++ ['\n'])) := by
  rw [writeNode.eq_def]
  rfl

theorem writeNode_container {kind : Container} (hk : isEnclosed kind = true) (cs : List Node) :
    writeNode context (.container kind cs m) =
      (writeRow context (.container kind cs m)).map (enclose kind) := by
  rw [writeNode.eq_def]
  cases kind with
  | blockQuote => cases hk
  | list => cases hk
  | listItem => cases hk
  | _ => rfl

end

end ChatMarkup.Render
