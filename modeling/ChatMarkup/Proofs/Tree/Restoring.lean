import ChatMarkup.Proofs.Data.Members
import ChatMarkup.Proofs.Tree.Everywhere
import ChatMarkup.Tree.Dump
import ChatMarkup.Tree.Load
import Mathlib.Tactic.SplitIfs
import Mathlib.Tactic.Tauto

/-!
# Trees and the values that denote them

The value of a tree is loaded as that very tree, with all that its nodes carry along, as long as the
tree does not blur what a reader has to tell apart: what a node carries along has names of its own,
an unknown kind is named, and not by the tag of a known one, a table has its rows in one place, and
headings have a rank that there is. The strict reading refuses none of these values. The lenient one
keeps whole ranks only, but takes an unknown kind without a name as well.
-/
namespace ChatMarkup.Node

/-- The tags of the known kinds. -/
def knownTags : List String :=
  ["root","paragraph","heading","code","blockquote","list","listItem","table","tableRow",
   "tableCell","thematicBreak","text","emphasis","strong","delete","inlineCode","link","image",
   "break"]

/-- The fields that a leaf can have besides its tag. -/
def leafFieldNames : Leaf → List String
  | .text _ => ["value"]
  | .code _ => ["value"]
  | .codeBlock .. => ["value","lang","meta"]
  | .image .. => ["url","alt","title"]
  | .lineBreak => []
  | .thematicBreak => []

/-- The fields that a container can have besides its tag and its children. -/
def containerFieldNames : Container → List String
  | .heading _ => ["depth"]
  | .list .. => ["ordered","start","spread"]
  | .listItem _ => ["checked"]
  | .link .. => ["url","title"]
  | _ => []

def tableFieldNames : List String := ["children","header","rows","align"]

def unknownFieldNames : List String := ["value","children"]

/-- The fields that a node of this kind can have besides its tag, present or not. -/
def fieldNames : Node → List String
  | .leaf kind _ => leafFieldNames kind
  | .container kind _ _ => "children" :: containerFieldNames kind
  | .table .. => tableFieldNames
  | .unknown .. => unknownFieldNames

def metadata : Node → Members
  | .leaf _ m => m
  | .container _ _ m => m
  | .table _ _ _ _ m => m
  | .unknown _ _ _ m => m

/-- Carried members have names of their own, which are neither the tag nor one of these fields. -/
structure Apart (names : List String) (m : Members) : Prop where
  nodup : m.keys.Nodup
  apart : ∀ key ∈ m.keys, key ≠ "type" ∧ key ∉ names

/-- What a reader has to tell apart in a single node. -/
def IsDistinct : Node → Prop
  | .leaf .. => True
  | .container (.heading depth) _ _ => depth.inRange = true
  | .container .. => True
  | .table body header rows _ _ => body = [] ∨ (header = none ∧ rows = [])
  | .unknown name _ _ _ => name ≠ "" ∧ name ∉ knownTags

/-- Nothing is blurred in any node of the tree. -/
abbrev Restorable : Node → Prop :=
  Everywhere fun n => Apart n.fieldNames n.metadata ∧ n.IsDistinct

/-- A reading keeps the rank of a heading as it is. -/
def KeepsDepth (mode : LoadMode) (depth : Depth) : Prop :=
  depth.inRange = true ∧ (mode = .lenient → ∃ c, depth = .count c)

/-- A reading tells the kind of a node by its tag, and keeps its rank. -/
def KeepsKind (mode : LoadMode) : Node → Prop
  | .container (.heading depth) _ _ => KeepsDepth mode depth
  | .unknown name _ _ _ => name ∉ knownTags ∧ (mode = .strict → name ≠ "")
  | _ => True

def HasOneShape : Node → Prop
  | .table body header rows _ _ => body = [] ∨ (header = none ∧ rows = [])
  | _ => True

/-- A reading finds in its value all that there is in any node of the tree. -/
abbrev Reloadable (mode : LoadMode) : Node → Prop :=
  Everywhere fun n => Apart n.fieldNames n.metadata ∧ n.KeepsKind mode ∧ n.HasOneShape

theorem Restorable.reloadable {n : Node} (h : Restorable n) : Reloadable .strict n := by
  refine h.mono fun n hn => ⟨hn.1,?_⟩
  obtain ⟨-,hd⟩ := hn
  cases n with
  | leaf => exact ⟨trivial,trivial⟩
  | container kind cs m =>
    cases kind with
    | heading depth => exact ⟨⟨hd,nofun⟩,trivial⟩
    | _ => exact ⟨trivial,trivial⟩
  | table => exact ⟨trivial,hd⟩
  | unknown => exact ⟨⟨hd.2,fun _ => hd.1⟩,trivial⟩

/-! ## Members of a dumped node -/

section
variable {fields m : Members} {names : List String} {key : String}

/-- A carried member goes behind the fields unless one of them, or one before it, has its name. -/
theorem withMembers_eq (hn : m.keys.Nodup) (hd : ∀ key ∈ m.keys, key ∉ fields.keys) :
    withMembers fields m = fields ++ m := by
  induction m generalizing fields with
  | nil => simp [withMembers]
  | cons x m ih =>
    obtain ⟨hx,hn⟩ := List.nodup_cons.mp hn
    have hh : fields.has x.1 = false := by
      have := hd x.1 (by simp [Members.keys])
      rwa [← Members.has_eq_true_iff,Bool.not_eq_true] at this
    have hs : withMembers fields (x :: m) = withMembers (fields ++ [x]) m := by
      simp [withMembers,hh]
    rw [hs,ih hn,List.append_assoc,List.singleton_append]
    intro key hk he
    rw [Members.keys_append,List.mem_append] at he
    rcases he with he | he
    · exact hd key (List.mem_cons_of_mem x.1 hk) he
    · exact hx (List.mem_singleton.mp he ▸ hk)

/-- A row of fields with some of these names, tag included. -/
def FieldsIn (names : List String) (fields : Members) : Prop :=
  ∀ key ∈ fields.keys, key = "type" ∨ key ∈ names

theorem Apart.withMembers_eq (h : Apart names m) (hf : FieldsIn names fields) :
    withMembers fields m = fields ++ m := by
  refine Node.withMembers_eq h.nodup fun key hk he => ?_
  rcases hf key he with rfl | hn
  · exact (h.apart _ hk).1 rfl
  · exact (h.apart _ hk).2 hn

/-- What a node carries along is not found where one of its fields is looked for. -/
theorem Apart.get?_eq (h : Apart names m) (hk : key = "type" ∨ key ∈ names) (fields : Members) :
    Members.get? (fields ++ m) key = fields.get? key := by
  have hn : m.get? key = none := by
    rw [Members.get?_eq_none_iff]
    intro he
    have := h.apart key he
    tauto
  rw [Members.get?_append,hn,Option.or_none]

/-- Leaving out the fields leaves what is carried along. -/
theorem Apart.extraMembers_eq (h : Apart names m) (hf : FieldsIn names fields) :
    extraMembers (fields ++ m) names = m := by
  have h₁ : fields.filter (fun x => x.1 != "type" && !names.contains x.1) = [] := by
    rw [List.filter_eq_nil_iff]
    intro x hx
    have := hf x.1 (List.mem_map_of_mem hx)
    simp only [Bool.and_eq_true,bne_iff_ne,Bool.not_eq_true',List.contains_eq_mem,
      decide_eq_false_iff_not]
    tauto
  have h₂ : m.filter (fun x => x.1 != "type" && !names.contains x.1) = m := by
    rw [List.filter_eq_self]
    intro x hx
    have := h.apart x.1 (List.mem_map_of_mem hx)
    simpa using this
  rw [extraMembers,List.filter_append,h₁,h₂,List.nil_append]

end

/-! ## Rows of trees -/

/-- The list under a key is that of the first member with it. -/
theorem loadRow_cons (mode : LoadMode) (key : String) (type : Value) (k : String) (v : Value)
    (ms : Members) :
    loadRow mode key type ((k,v) :: ms) =
      if k = key then
        match v with
        | .null => .ok []
        | .list items => loadItems mode items
        | v => match mode with
          | .strict => .error (.notList key type v.kindName)
          | .lenient => .ok []
      else loadRow mode key type ms := by
  rw [loadRow.eq_def]
  exact if_congr beq_iff_eq rfl rfl

theorem loadHeader_cons (mode : LoadMode) (k : String) (v : Value) (ms : Members) :
    loadHeader mode ((k,v) :: ms) =
      if k = "header" then
        match v with
        | .object ms => (load mode (.object ms)).map some
        | .list (item :: _) => (load mode item).map some
        | _ => .ok none
      else loadHeader mode ms := by
  rw [loadHeader.eq_def]
  exact if_congr beq_iff_eq rfl rfl

theorem loadRow_eq (mode : LoadMode) (key : String) (type : Value) (ms : Members) :
    loadRow mode key type ms =
      match ms.get? key with
      | none => .ok []
      | some .null => .ok []
      | some (.list items) => loadItems mode items
      | some v => match mode with
        | .strict => .error (.notList key type v.kindName)
        | .lenient => .ok [] := by
  induction ms with
  | nil =>
    rw [loadRow.eq_def]
    rfl
  | cons x ms ih =>
    obtain ⟨k,v⟩ := x
    rw [loadRow_cons,Members.get?_cons]
    split_ifs
    · cases v <;> rfl
    · exact ih

theorem loadHeader_eq (mode : LoadMode) (ms : Members) :
    loadHeader mode ms =
      match ms.get? "header" with
      | some (.object hs) => (load mode (.object hs)).map some
      | some (.list (item :: _)) => (load mode item).map some
      | _ => .ok none := by
  induction ms with
  | nil =>
    rw [loadHeader.eq_def]
    rfl
  | cons x ms ih =>
    obtain ⟨k,v⟩ := x
    rw [loadHeader_cons,Members.get?_cons]
    split_ifs
    · cases v with
      | list items => cases items <;> rfl
      | _ => rfl
    · exact ih

section
variable {ms : Members} {key : String} (mode : LoadMode) (type : Value)

theorem loadRow_eq_loadItems {items : List Value} (h : ms.get? key = some (.list items)) :
    loadRow mode key type ms = loadItems mode items := by
  rw [loadRow_eq,h]

theorem loadRow_eq_nil (h : ms.get? key = none) : loadRow mode key type ms = .ok [] := by
  rw [loadRow_eq,h]

theorem loadHeader_eq_load {item : Value} {more : List Value}
    (h : ms.get? "header" = some (.list (item :: more))) :
    loadHeader mode ms = (load mode item).map some := by
  rw [loadHeader_eq,h]

theorem loadHeader_eq_none
    (h : ms.get? "header" = none ∨ ms.get? "header" = some (.list [])) :
    loadHeader mode ms = .ok none := by
  rw [loadHeader_eq]
  rcases h with h | h <;> rw [h]

end

theorem loadItems_dumpList {ns : List Node} {mode : LoadMode}
    (h : ∀ n ∈ ns, load mode (dump n) = .ok n) : loadItems mode (dumpList ns) = .ok ns := by
  induction ns with
  | nil => simp [dumpList,loadItems]
  | cons n ns ih =>
    have hn := h n (by simp)
    have hs := ih fun m hm => h m (List.mem_cons_of_mem n hm)
    simp [dumpList,loadItems,hn,hs,bind,Except.bind]

/-! ## One node at a time -/

section
variable {m : Members} {names : List String} {key : String}

theorem Apart.textField?_eq (h : Apart names m) (hk : key ∈ names) (fields : Members) :
    textField? (fields ++ m) key = textField? fields key := by
  unfold textField?
  rw [h.get?_eq (.inr hk)]

theorem Apart.flagField_eq (h : Apart names m) (hk : key ∈ names) (fields : Members) :
    flagField (fields ++ m) key = flagField fields key := by
  unfold flagField
  rw [h.get?_eq (.inr hk)]

theorem Apart.tag?_eq {fields : Members} {tag : String} (h : Apart names m)
    (ht : fields.get? "type" = some (.text tag)) (hn : tag ≠ "") :
    tag? (fields ++ m) = some tag := by
  unfold tag?
  rw [h.get?_eq (.inl rfl),ht]
  simpa using hn

/-- The fields of a leaf are read as that leaf. -/
theorem exists_leafOf? (kind : Leaf) (h : Apart (leafFieldNames kind) m) :
    ∃ tag, tag? (leafFields kind ++ m) = some tag ∧
      leafOf? tag (leafFields kind ++ m) = some (.ok kind,leafFieldNames kind) := by
  have ht (key : String) (hk : key ∈ leafFieldNames kind) := h.textField?_eq hk (leafFields kind)
  cases kind with
  | text value =>
    refine ⟨"text",h.tag?_eq rfl (by decide),?_⟩
    rw [leafOf?,textField,ht "value" (by simp [leafFieldNames])]
    rfl
  | code value =>
    refine ⟨"inlineCode",h.tag?_eq rfl (by decide),?_⟩
    rw [leafOf?,textField,ht "value" (by simp [leafFieldNames])]
    rfl
  | codeBlock value lang info =>
    refine ⟨"code",h.tag?_eq rfl (by decide),?_⟩
    rw [leafOf?,textField,ht "value" (by simp [leafFieldNames]),ht "lang" (by simp [leafFieldNames]),
      ht "meta" (by simp [leafFieldNames])]
    cases lang <;> cases info <;> rfl
  | image url alt title =>
    refine ⟨"image",h.tag?_eq rfl (by decide),?_⟩
    rw [leafOf?,textField,ht "url" (by simp [leafFieldNames]),ht "alt" (by simp [leafFieldNames]),
      ht "title" (by simp [leafFieldNames])]
    cases alt <;> cases title <;> rfl
  | lineBreak => exact ⟨"break",h.tag?_eq rfl (by decide),rfl⟩
  | thematicBreak => exact ⟨"thematicBreak",h.tag?_eq rfl (by decide),rfl⟩

theorem headingDepth_of_get? {mode : LoadMode} {depth : Depth} {ms : Members}
    (hd : KeepsDepth mode depth) (h : ms.get? "depth" = some depth.toValue) :
    headingDepth mode ms = .ok depth := by
  obtain ⟨hr,hc⟩ := hd
  unfold headingDepth
  rw [h,Option.getD_some]
  cases mode with
  | strict => simp [Depth.ofValue?_toValue,hr]
  | lenient =>
    obtain ⟨c,rfl⟩ := hc rfl
    have hv : Count.ofValue? (Depth.count c).toValue = some c := Count.ofValue?_toValue c
    have hi : (1 ≤ c.toInt && c.toInt ≤ 6) = true := hr
    simp only [hv,hi,if_true]

/-- The fields of a container are read as that container. -/
theorem exists_containerOf? (mode : LoadMode) (kind : Container) (children : Value)
    (hd : ∀ depth, kind = .heading depth → KeepsDepth mode depth)
    (h : Apart ("children" :: containerFieldNames kind) m) :
    ∃ tag, tag? (containerFields children kind ++ m) = some tag ∧ tag ≠ "table" ∧
      leafOf? tag (containerFields children kind ++ m) = none ∧
      containerOf? mode tag (containerFields children kind ++ m) =
        some (.ok (.ok kind),containerFieldNames kind) := by
  have ht {key : String} (hk : key ∈ "children" :: containerFieldNames kind) :=
    h.get?_eq (.inr hk) (containerFields children kind)
  cases kind with
  | document => exact ⟨"root",h.tag?_eq rfl (by decide),by decide,rfl,rfl⟩
  | heading depth =>
    refine ⟨"heading",h.tag?_eq rfl (by decide),by decide,rfl,?_⟩
    have hg : headingDepth mode (containerFields children (.heading depth) ++ m) = .ok depth :=
      headingDepth_of_get? (hd depth rfl) (ht (by simp [containerFieldNames]))
    rw [containerOf?,hg]
    rfl
  | paragraph => exact ⟨"paragraph",h.tag?_eq rfl (by decide),by decide,rfl,rfl⟩
  | blockQuote => exact ⟨"blockquote",h.tag?_eq rfl (by decide),by decide,rfl,rfl⟩
  | list ordered start spread =>
    refine ⟨"list",h.tag?_eq rfl (by decide),by decide,rfl,?_⟩
    rw [containerOf?,h.flagField_eq (by simp [containerFieldNames]),
      h.flagField_eq (by simp [containerFieldNames]),ht (by simp [containerFieldNames])]
    cases start with
    | none => rfl
    | some start =>
      have hs := Count.ofValue?_toValue start
      simp [containerFields,containerFieldNames,Members.get?_cons,flagField,hs,Value.isGiven]
  | listItem checked =>
    refine ⟨"listItem",h.tag?_eq rfl (by decide),by decide,rfl,?_⟩
    rw [containerOf?,ht (by simp [containerFieldNames])]
    cases checked <;> rfl
  | tableRow => exact ⟨"tableRow",h.tag?_eq rfl (by decide),by decide,rfl,rfl⟩
  | tableCell => exact ⟨"tableCell",h.tag?_eq rfl (by decide),by decide,rfl,rfl⟩
  | emphasis => exact ⟨"emphasis",h.tag?_eq rfl (by decide),by decide,rfl,rfl⟩
  | strong => exact ⟨"strong",h.tag?_eq rfl (by decide),by decide,rfl,rfl⟩
  | strikethrough => exact ⟨"delete",h.tag?_eq rfl (by decide),by decide,rfl,rfl⟩
  | link url title =>
    refine ⟨"link",h.tag?_eq rfl (by decide),by decide,rfl,?_⟩
    rw [containerOf?,textField,h.textField?_eq (by simp [containerFieldNames]),
      h.textField?_eq (by simp [containerFieldNames])]
    cases title <;> rfl

/-- No known kind has a name that is none of the tags. -/
theorem unknown_of_notMem (mode : LoadMode) {tag : String} (h : tag ∉ knownTags) (ms : Members) :
    leafOf? tag ms = none ∧ tag ≠ "table" ∧ containerOf? mode tag ms = none := by
  refine ⟨?_,?_,?_⟩
  · unfold leafOf?
    split
    case h_7 => rfl
    all_goals exact absurd h (by decide)
  · rintro rfl
    exact absurd h (by decide)
  · unfold containerOf?
    split
    case h_13 => rfl
    all_goals exact absurd h (by decide)

end

/-! ## Fields have the names of their kind -/

theorem fieldsIn_leafFields (kind : Leaf) : FieldsIn (leafFieldNames kind) (leafFields kind) := by
  cases kind with
  | codeBlock value lang info =>
    cases lang <;> cases info <;>
      simp [FieldsIn,leafFields,optionalField,leafFieldNames,Members.keys]
  | image url alt title =>
    cases alt <;> cases title <;>
      simp [FieldsIn,leafFields,optionalField,leafFieldNames,Members.keys]
  | _ => simp [FieldsIn,leafFields,leafFieldNames,Members.keys]

theorem fieldsIn_containerFields (kind : Container) (children : Value) :
    FieldsIn ("children" :: containerFieldNames kind) (containerFields children kind) := by
  cases kind with
  | list ordered start spread =>
    cases start <;> simp [FieldsIn,containerFields,containerFieldNames,Members.keys]
  | listItem checked =>
    cases checked <;> simp [FieldsIn,containerFields,containerFieldNames,Members.keys]
  | link url title =>
    cases title <;> simp [FieldsIn,containerFields,optionalField,containerFieldNames,Members.keys]
  | _ => simp [FieldsIn,containerFields,containerFieldNames,Members.keys]

theorem get?_containerFields (kind : Container) (children : Value) :
    (containerFields children kind).get? "children" = some children := by
  cases kind with
  | list ordered start spread => cases start <;> rfl
  | listItem checked => cases checked <;> rfl
  | link url title => cases title <;> rfl
  | _ => rfl

/-- The fields of a table: alignment if there is any, and the rows in one of the two shapes. -/
def tableFields (body : List Node) (header : Option Node) (rows : List Node) (align : List Value) :
    Members :=
  [("type",.text "table")] ++ (if align.isEmpty then [] else [("align",.list align)]) ++
    match header,rows with
    | none,[] => [("children",.list (dumpList body))]
    | header,rows => [("header",.list (dumpOption header)),("rows",.list (dumpList rows))]

/-- With a header or rows, a table is written in the shape that has both. -/
theorem tableFields_split (body : List Node) {header : Option Node} {rows : List Node}
    (h : ¬(header = none ∧ rows = [])) (align : List Value) :
    tableFields body header rows align =
      [("type",.text "table")] ++ (if align.isEmpty then [] else [("align",.list align)]) ++
        [("header",.list (dumpOption header)),("rows",.list (dumpList rows))] := by
  cases header with
  | some n => rfl
  | none =>
    cases rows with
    | nil => exact absurd ⟨rfl,rfl⟩ h
    | cons n rows => rfl

theorem dump_table (body : List Node) (header : Option Node) (rows : List Node)
    (align : List Value) (m : Members) :
    dump (.table body header rows align m) =
      .object (withMembers (tableFields body header rows align) m) := by
  rw [dump.eq_def]
  rfl

def unknownFields (name : String) (value : Option String) (cs : List Node) : Members :=
  [("type",.text name)] ++ optionalField "value" value ++
    match cs with
    | [] => []
    | cs => [("children",.list (dumpList cs))]

theorem dump_unknown (name : String) (value : Option String) (cs : List Node) (m : Members) :
    dump (.unknown name value cs m) = .object (withMembers (unknownFields name value cs) m) := by
  rw [dump.eq_def]
  rfl

theorem fieldsIn_tableFields (body : List Node) (header : Option Node) (rows : List Node)
    (align : List Value) : FieldsIn tableFieldNames (tableFields body header rows align) := by
  unfold tableFields
  cases align <;> cases header <;> cases rows <;>
    simp [FieldsIn,tableFieldNames,Members.keys]

theorem fieldsIn_unknownFields (name : String) (value : Option String) (cs : List Node) :
    FieldsIn unknownFieldNames (unknownFields name value cs) := by
  unfold unknownFields
  cases value <;> cases cs <;> simp [FieldsIn,optionalField,unknownFieldNames,Members.keys]

/-! ## Whole trees -/

section
variable {m : Members} {mode : LoadMode}

theorem alignment_tableFields {body : List Node} {header : Option Node} {rows : List Node}
    {align : List Value} (h : Apart tableFieldNames m) :
    alignment (tableFields body header rows align ++ m) = .ok align := by
  unfold alignment
  rw [h.get?_eq (by simp [tableFieldNames])]
  cases align <;> cases header <;> cases rows <;> rfl

/-- The rows of a table are read from where they were written. -/
theorem load_tableRows {body : List Node} {header : Option Node} {rows : List Node}
    (align : List Value) (h : Apart tableFieldNames m)
    (hd : body = [] ∨ (header = none ∧ rows = []))
    (hb : ∀ n ∈ body, load mode (dump n) = .ok n)
    (hh : ∀ n ∈ header, load mode (dump n) = .ok n)
    (hr : ∀ n ∈ rows, load mode (dump n) = .ok n) (type : Value) :
    loadHeader mode (tableFields body header rows align ++ m) = .ok header ∧
      loadRow mode "children" type (tableFields body header rows align ++ m) = .ok body ∧
      loadRow mode "rows" type (tableFields body header rows align ++ m) = .ok rows := by
  have hk (key : String) (hk : key ∈ tableFieldNames) :=
    h.get?_eq (.inr hk) (tableFields body header rows align)
  have hc := hk "children" (by decide)
  have hg := hk "header" (by decide)
  have hw := hk "rows" (by decide)
  by_cases hs : header = none ∧ rows = []
  · obtain ⟨rfl,rfl⟩ := hs
    have fc : (tableFields body none [] align).get? "children" = some (.list (dumpList body)) := by
      cases align <;> rfl
    have fg : (tableFields body none [] align).get? "header" = none := by cases align <;> rfl
    have fw : (tableFields body none [] align).get? "rows" = none := by cases align <;> rfl
    refine ⟨loadHeader_eq_none _ (.inl (hg.trans fg)),?_,loadRow_eq_nil _ _ (hw.trans fw)⟩
    rw [loadRow_eq_loadItems _ _ (hc.trans fc),loadItems_dumpList hb]
  · obtain rfl := hd.resolve_right hs
    rw [tableFields_split [] hs align] at hc hg hw ⊢
    have fc := hc.trans (show _ = none by cases align <;> rfl)
    have fg := hg.trans (show _ = some (.list (dumpOption header)) by cases align <;> rfl)
    have fw := hw.trans (show _ = some (.list (dumpList rows)) by cases align <;> rfl)
    refine ⟨?_,loadRow_eq_nil _ _ fc,?_⟩
    · cases header with
      | none => exact loadHeader_eq_none _ (.inr fg)
      | some n => rw [loadHeader_eq_load _ fg,hh n rfl]; rfl
    · rw [loadRow_eq_loadItems _ _ fw,loadItems_dumpList hr]

theorem load_dump_table {body : List Node} {header : Option Node} {rows : List Node}
    {align : List Value} (h : Apart tableFieldNames m)
    (hd : body = [] ∨ (header = none ∧ rows = []))
    (hl : ∀ n ∈ body ++ header.toList ++ rows, load mode (dump n) = .ok n) :
    load mode (dump (.table body header rows align m)) =
      .ok (.table body header rows align m) := by
  have hf := fieldsIn_tableFields body header rows align
  have hs : tag? (tableFields body header rows align ++ m) = some "table" :=
    h.tag?_eq rfl (by decide)
  have hx := h.extraMembers_eq hf
  rw [tableFieldNames] at hx
  obtain ⟨hh,hb,hr⟩ := load_tableRows align h hd (fun n hn => hl n (by simp [hn]))
    (fun n hn => hl n (by simp [Option.mem_def.mp hn])) (fun n hn => hl n (by simp [hn]))
    (.text "table")
  rw [dump_table,h.withMembers_eq hf,load.eq_def]
  simp [hs,leafOf?,hh,hb,hr,alignment_tableFields h,hx,bind,Except.bind]

theorem load_dump_leaf {kind : Leaf} (h : Apart (leafFieldNames kind) m) :
    load mode (dump (.leaf kind m)) = .ok (.leaf kind m) := by
  have hf := fieldsIn_leafFields kind
  obtain ⟨tag,hs,hk⟩ := exists_leafOf? kind h
  rw [dump,h.withMembers_eq hf,load.eq_def]
  simp [hs,hk,h.extraMembers_eq hf,Except.map]

theorem load_dump_container {kind : Container} {cs : List Node}
    (h : Apart ("children" :: containerFieldNames kind) m)
    (hd : ∀ depth, kind = .heading depth → KeepsDepth mode depth)
    (hl : ∀ n ∈ cs, load mode (dump n) = .ok n) :
    load mode (dump (.container kind cs m)) = .ok (.container kind cs m) := by
  have hf := fieldsIn_containerFields kind (.list (dumpList cs))
  obtain ⟨tag,hs,ht,hk,hc⟩ := exists_containerOf? mode kind (.list (dumpList cs)) hd h
  have hg : (containerFields (.list (dumpList cs)) kind ++ m).get? "children" =
      some (.list (dumpList cs)) := by
    rw [h.get?_eq (.inr (by simp)),get?_containerFields]
  have hr : loadRow mode "children" (.text tag)
      (containerFields (.list (dumpList cs)) kind ++ m) = .ok cs := by
    rw [loadRow_eq_loadItems _ _ hg,loadItems_dumpList hl]
  rw [dump,h.withMembers_eq hf,load.eq_def]
  simp [hs,hk,ht,hc,hr,h.extraMembers_eq hf,bind,Except.bind]

theorem load_dump_unknown {name : String} {value : Option String} {cs : List Node}
    (h : Apart unknownFieldNames m) (hn : name ∉ knownTags) (he : mode = .strict → name ≠ "")
    (hl : ∀ n ∈ cs, load mode (dump n) = .ok n) :
    load mode (dump (.unknown name value cs m)) = .ok (.unknown name value cs m) := by
  have hf := fieldsIn_unknownFields name value cs
  have hx := h.extraMembers_eq hf
  rw [unknownFieldNames] at hx
  have hv : textField? (unknownFields name value cs ++ m) "value" = .ok value := by
    rw [h.textField?_eq (by decide)]
    cases value <;> cases cs <;> rfl
  have hg := h.get?_eq (.inr (by decide) : "children" = "type" ∨ "children" ∈ unknownFieldNames)
    (unknownFields name value cs)
  have hr (type : Value) :
      loadRow mode "children" type (unknownFields name value cs ++ m) = .ok cs := by
    cases cs with
    | nil => exact loadRow_eq_nil _ _ (hg.trans (by cases value <;> rfl))
    | cons c cs =>
      rw [loadRow_eq_loadItems _ _ (hg.trans (by cases value <;> rfl)),loadItems_dumpList hl]
  rw [dump_unknown,h.withMembers_eq hf,load.eq_def]
  by_cases hs : name = ""
  · -- a node without a name has no tag, which only the strict reading refuses
    subst hs
    have ht : tag? (unknownFields "" value cs ++ m) = none := by
      unfold tag?
      rw [h.get?_eq (.inl rfl)]
      rfl
    cases mode with
    | strict => exact absurd rfl (he rfl)
    | lenient => simp [ht,hr,hv,hx,bind,Except.bind]
  · have ht : tag? (unknownFields name value cs ++ m) = some name := h.tag?_eq rfl hs
    obtain ⟨hk,hb,hc⟩ := unknown_of_notMem mode hn (unknownFields name value cs ++ m)
    simp [ht,hk,hb,hc,hr,hv,hx,bind,Except.bind]

end

/-- The value of a tree is read as the tree. -/
theorem load_dump_of_reloadable {mode : LoadMode} {n : Node} (h : Reloadable mode n) :
    load mode (dump n) = .ok n := by
  induction h with
  | @intro n hn _ ih =>
    obtain ⟨ha,hk,hs⟩ := hn
    cases n with
    | leaf kind m => exact load_dump_leaf ha
    | container kind cs m => exact load_dump_container ha (by rintro depth rfl; exact hk) ih
    | table body header rows align m => exact load_dump_table ha hs ih
    | unknown name value cs m => exact load_dump_unknown ha hk.1 hk.2 ih

/-- The strict reading of the value that denotes a tree gives the tree back. -/
theorem load_dump {n : Node} (h : Restorable n) : load .strict (dump n) = .ok n :=
  load_dump_of_reloadable h.reloadable

end ChatMarkup.Node
