import ChatMarkup.Proofs.Data.Json.RoundTrip
import ChatMarkup.Proofs.Number.Limit
import ChatMarkup.Proofs.Tree.Restoring

/-!
# Trees and their texts

Where nothing is blurred, a tree is loaded from the value that denotes it, and, as long as what it
carries along can be written, also from the text of that value, however it is indented.
-/
namespace ChatMarkup.Node
open Json (Writable)

/-- What a single node holds besides text, truth values and the whole rank of a heading can be
written. -/
def HoldsWritable (n : Node) : Prop :=
  (∀ x ∈ n.metadata, Writable x.2) ∧
    match n with
    | .container (.heading (.real x)) _ _ => x.IsCanonical
    | .container (.list _ (some start) _) _ _ => Writable start.toValue
    | .table _ _ _ align _ => ∀ v ∈ align, Writable v
    | _ => True

section
variable {fields m : Members} {names : List String}

theorem writable_object (ha : Apart names m) (hf : FieldsIn names fields)
    (hn : fields.keys.Nodup) (hw : ∀ x ∈ fields, Writable x.2) (hm : ∀ x ∈ m, Writable x.2) :
    Writable (.object (withMembers fields m)) := by
  rw [ha.withMembers_eq hf]
  refine .object ?_ (List.forall_mem_append.mpr ⟨hw,hm⟩)
  rw [Members.keys_append,List.nodup_append]
  refine ⟨hn,ha.nodup,?_⟩
  rintro key hk _ hk' rfl
  rcases hf key hk with rfl | hk
  · exact (ha.apart _ hk').1 rfl
  · exact (ha.apart _ hk').2 hk

theorem inRange_number (n : Int) : (Depth.count (.number n)).inRange = true ↔ 1 ≤ n ∧ n ≤ 6 := by
  rw [Depth.inRange,Bool.and_eq_true,decide_eq_true_iff,decide_eq_true_iff,Count.toInt]

/-- The rank of a heading is never too long. -/
theorem writable_depth {depth : Depth} (hr : depth.inRange = true)
    (hd : ∀ x, depth = .real x → x.IsCanonical) : Writable depth.toValue := by
  cases depth with
  | real x => exact .float (hd x rfl)
  | count c =>
    cases c with
    | flag b => exact .bool b
    | number n =>
      rw [inRange_number] at hr
      have : 10 ≤ 10^Number.maxDigits := Nat.le_self_pow (by decide) 10
      refine .int (Bool.not_eq_true _ ▸ fun hl => ?_)
      rw [Number.isLong_iff] at hl
      omega

theorem writable_leafFields (kind : Leaf) :
    (leafFields kind).keys.Nodup ∧ ∀ x ∈ leafFields kind, Writable x.2 := by
  cases kind with
  | codeBlock value lang info =>
    cases lang <;> cases info <;>
      simp [leafFields,optionalField,Members.keys,Writable.text]
  | image url alt title =>
    cases alt <;> cases title <;>
      simp [leafFields,optionalField,Members.keys,Writable.text]
  | _ => simp [leafFields,Members.keys,Writable.text]

theorem writable_containerFields (kind : Container) {children : Value} (hc : Writable children)
    (hd : ∀ depth, kind = .heading depth → Writable depth.toValue)
    (hs : ∀ ordered start spread, kind = .list ordered (some start) spread →
      Writable start.toValue) :
    (containerFields children kind).keys.Nodup ∧
      ∀ x ∈ containerFields children kind, Writable x.2 := by
  cases kind with
  | heading depth => simp [containerFields,Members.keys,Writable.text,hc,hd depth rfl]
  | list ordered start spread =>
    cases start with
    | none => simp [containerFields,Members.keys,Writable.text,Writable.bool,hc]
    | some start =>
      simp [containerFields,Members.keys,Writable.text,Writable.bool,hs _ start _ rfl,hc]
  | listItem checked =>
    cases checked <;> simp [containerFields,Members.keys,Writable.text,Writable.bool,hc]
  | link url title =>
    cases title <;> simp [containerFields,optionalField,Members.keys,Writable.text,hc]
  | _ => simp [containerFields,Members.keys,Writable.text,hc]

theorem writable_dumpList {ns : List Node} (h : ∀ n ∈ ns, Writable (dump n)) :
    Writable (.list (dumpList ns)) := by
  refine .list ?_
  induction ns with
  | nil => simp [dumpList]
  | cons n ns ih =>
    have := ih fun m hm => h m (List.mem_cons_of_mem n hm)
    simpa [dumpList,h n] using this

theorem writable_tableFields {body : List Node} {header : Option Node} {rows : List Node}
    {align : List Value} (ha : ∀ v ∈ align, Writable v)
    (h : ∀ n ∈ body ++ header.toList ++ rows, Writable (dump n)) :
    (tableFields body header rows align).keys.Nodup ∧
      ∀ x ∈ tableFields body header rows align, Writable x.2 := by
  have hb : Writable (.list (dumpList body)) := writable_dumpList fun n hn => h n (by simp [hn])
  have hr : Writable (.list (dumpList rows)) := writable_dumpList fun n hn => h n (by simp [hn])
  have hh : Writable (.list (dumpOption header)) := by
    cases header with
    | none => exact .list (by simp [dumpOption])
    | some n => exact .list (by simp [dumpOption,h n])
  have hl : Writable (.list align) := .list ha
  unfold tableFields
  cases align <;> cases header <;> cases rows <;>
    simp [Members.keys,Writable.text,hb,hr,hh,hl]

theorem writable_unknownFields (name : String) (value : Option String) {cs : List Node}
    (h : ∀ n ∈ cs, Writable (dump n)) :
    (unknownFields name value cs).keys.Nodup ∧
      ∀ x ∈ unknownFields name value cs, Writable x.2 := by
  have hc := writable_dumpList h
  unfold unknownFields
  cases value <;> cases cs <;> simp [optionalField,Members.keys,Writable.text,hc]

end

def RankInRange : Node → Prop
  | .container (.heading depth) _ _ => depth.inRange = true
  | _ => True

/-- The value of a tree can be written if what its nodes carry along has names of its own. -/
theorem writable_dump_of_apart {n : Node} (h : Everywhere
    (fun n => Apart n.fieldNames n.metadata ∧ n.RankInRange ∧ n.HoldsWritable) n) :
    Writable (dump n) := by
  induction h with
  | @intro n hn _ hparts =>
    obtain ⟨ha,hr,hm,hv⟩ := hn
    cases n with
    | leaf kind m =>
      obtain ⟨hn,hf⟩ := writable_leafFields kind
      rw [dump]
      exact writable_object ha (fieldsIn_leafFields kind) hn hf hm
    | container kind cs m =>
      obtain ⟨hn,hf⟩ := writable_containerFields kind (writable_dumpList hparts)
        (by rintro depth rfl; exact writable_depth hr (by rintro x rfl; exact hv))
        (by rintro ordered start spread rfl; exact hv)
      rw [dump]
      exact writable_object ha (fieldsIn_containerFields kind _) hn hf hm
    | table body header rows align m =>
      obtain ⟨hn,hf⟩ := writable_tableFields hv hparts
      rw [dump_table]
      exact writable_object ha (fieldsIn_tableFields body header rows align) hn hf hm
    | unknown name value cs m =>
      obtain ⟨hn,hf⟩ := writable_unknownFields name value hparts
      rw [dump_unknown]
      exact writable_object ha (fieldsIn_unknownFields name value cs) hn hf hm

theorem IsDistinct.rankInRange {n : Node} (h : n.IsDistinct) : n.RankInRange := by
  unfold RankInRange
  split
  · exact h
  · trivial

/-- The value of a tree in which nothing is blurred can be written. -/
theorem writable_dump {n : Node} (h : Restorable n) (hw : Everywhere HoldsWritable n) :
    Writable (dump n) :=
  writable_dump_of_apart ((h.and hw).mono fun _ hn => ⟨hn.1.1,hn.1.2.rankInRange,hn.2⟩)

/-- A tree in which nothing is blurred is loaded back from its value, and from the text of its
value with any indent if all that it holds can be written. -/
theorem load_back {t : Node} (h : Restorable t) :
    load .strict (dump t) = .ok t ∧ (Everywhere HoldsWritable t → ∀ indent,
      ∃ text, Json.print? (dump t) indent = some text ∧
        (Json.read text).map (load .strict) = .ok (.ok t)) := by
  refine ⟨load_dump h,fun hw indent => ?_⟩
  obtain ⟨text,hp,hr⟩ := Json.exists_print? (writable_dump h hw) indent
  exact ⟨text,hp,by rw [hr,Except.map,load_dump h]⟩

/-- A heading that carries along where it stands, a table with a header only, and a node of a kind
that is not known. -/
def sampleTree : Node :=
  let heading := .container (.heading (.count (.number 2))) [text "a"]
    [("position",.object [("line",.int 1),("offset",.float (.finite false (3*2^51) (-52)))])]
  let table := .table [] (some (.container .tableRow [] [])) [] [.null,.text "left"] []
  let formula := .unknown "math" (some "x") [] [("data",.list [.bool true])]
  .container .document [heading,table,formula] []

theorem load_back_sampleTree : Restorable sampleTree ∧ Everywhere HoldsWritable sampleTree ∧
    load .strict (dump sampleTree) = .ok sampleTree ∧
    ∃ text, Json.print? (dump sampleTree) (some 2) = some text ∧
      (Json.read text).map (load .strict) = .ok (.ok sampleTree) := by
  have hr : Restorable sampleTree := by
    have hcell : Restorable (text "a") := .of_alone ⟨⟨by decide,by decide⟩,trivial⟩ rfl
    have hrow : Restorable (.container .tableRow [] []) :=
      .of_alone ⟨⟨by decide,by decide⟩,trivial⟩ rfl
    refine .intro ⟨⟨by decide,by decide⟩,trivial⟩ fun part hp => ?_
    simp only [sampleTree,parts,List.mem_cons,List.not_mem_nil,or_false] at hp
    rcases hp with rfl | rfl | rfl
    · exact .intro ⟨⟨by decide,by decide⟩,rfl⟩ (by simpa [parts] using hcell)
    · exact .intro ⟨⟨by decide,by decide⟩,.inl rfl⟩ (by simpa [parts] using hrow)
    · exact .of_alone ⟨⟨by decide,by decide⟩,by simp [IsDistinct,knownTags]⟩ rfl
  have hw : Everywhere HoldsWritable sampleTree := by
    have hfloat : Writable (.float (.finite false (3*2^51) (-52))) :=
      .float ⟨by decide,by decide,by decide,.inl (by decide)⟩
    have hplace : Writable
        (.object [("line",.int 1),("offset",.float (.finite false (3*2^51) (-52)))]) :=
      .object (by decide) (by simpa using ⟨.int (by decide),hfloat⟩)
    have hdata : Writable (.list [.bool true]) := .list (by simpa using .bool true)
    refine .intro ⟨by simp [sampleTree,metadata],trivial⟩ fun part hp => ?_
    simp only [sampleTree,parts,List.mem_cons,List.not_mem_nil,or_false] at hp
    rcases hp with rfl | rfl | rfl
    · refine .intro ⟨by simpa [metadata] using hplace,trivial⟩ ?_
      simpa [parts] using .of_alone ⟨by simp [metadata,text],trivial⟩ rfl
    · refine .intro ⟨by simp [metadata],by simpa using ⟨.null,.text "left"⟩⟩ ?_
      simpa [parts] using .of_alone ⟨by simp [metadata],trivial⟩ rfl
    · exact .of_alone ⟨by simpa [metadata] using hdata,trivial⟩ rfl
  exact ⟨hr,hw,(load_back hr).1,(load_back hr).2 hw (some 2)⟩

end ChatMarkup.Node
