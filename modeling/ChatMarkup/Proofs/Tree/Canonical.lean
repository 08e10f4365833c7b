import ChatMarkup.Proofs.Data.Json.Readable
import ChatMarkup.Proofs.Tree.Loading
import ChatMarkup.Proofs.Tree.RoundTrip

/-!
# Written again

A value that was read may say the same thing in many ways. The value that is written for the tree
says it in one: reading that value again gives a tree for which the same value is written. The two
trees need not be the same. What a value does not say of a tree is lost on the way: members of a
name that is there already, and the body of a table with a header or rows. Nothing else is.
-/
namespace ChatMarkup.Node
open Json (Writable)
open Value

/-! ## Members of one name -/

section
variable {fields m : Members}

/-- A carried member is added unless one of its name is there. -/
def withMember (fields : Members) (m : String × Value) : Members :=
  if fields.has m.1 then fields else fields ++ [m]

theorem withMembers_cons (fields : Members) (x : String × Value) (m : Members) :
    withMembers fields (x :: m) = withMembers (withMember fields x) m := rfl

@[simp] theorem withMembers_nil (fields : Members) : withMembers fields [] = fields := rfl

theorem mem_keys_withMembers {key : String} :
    key ∈ (withMembers fields m).keys ↔ key ∈ fields.keys ∨ key ∈ m.keys := by
  induction m generalizing fields with
  | nil => simp [withMembers,Members.keys]
  | cons x m ih =>
    rw [withMembers_cons,ih,withMember]
    split_ifs with h
    · rw [Members.has_eq_true_iff] at h
      simp only [Members.keys,List.map_cons,List.mem_cons] at h ⊢
      constructor
      · tauto
      · rintro (hk | rfl | hk)
        · exact .inl hk
        · exact .inl h
        · exact .inr hk
    · simp only [Members.keys,List.map_append,List.map_cons,List.map_nil,List.mem_append,
        List.mem_cons,List.not_mem_nil,or_false]
      tauto

theorem nodup_withMembers (h : fields.keys.Nodup) (m : Members) :
    (withMembers fields m).keys.Nodup := by
  induction m generalizing fields with
  | nil => exact h
  | cons x m ih =>
    rw [withMembers_cons]
    refine ih ?_
    unfold withMember
    split_ifs with hx
    · exact h
    · rw [Members.has_eq_true_iff] at hx
      exact Members.nodup_concat h hx

theorem withMember_withMembers (m : Members) {x : String × Value} :
    withMember (withMembers fields m) x = withMembers fields (m ++ [x]) := by
  rw [withMembers,withMembers,List.foldl_append]
  rfl

/-- Members that are dropped as repeated would be dropped behind the fields as well. -/
theorem withMembers_withMembers (fields acc m : Members) :
    withMembers fields (withMembers acc m) = withMembers (withMembers fields acc) m := by
  induction m generalizing acc with
  | nil => rfl
  | cons x m ih =>
    rw [withMembers_cons,ih,withMembers_cons]
    congr 1
    -- what `acc` does not take is among the names behind `fields` already
    rw [withMember_withMembers]
    unfold withMember
    split_ifs with h
    · rw [Members.has_eq_true_iff] at h
      rw [← withMember_withMembers,withMember,if_pos]
      exact Members.has_eq_true_iff.mpr (mem_keys_withMembers.mpr (.inr h))
    · rfl

end

/-! ## Trees without what their values do not say -/

mutual

/-- The tree without what its value does not say. -/
def settled : Node → Node
  | .leaf kind m => .leaf kind (withMembers [] m)
  | .container kind cs m => .container kind (settledList cs) (withMembers [] m)
  | .table body header rows align m =>
    match header,rows with
    | none,[] => .table (settledList body) none [] align (withMembers [] m)
    | header,rows =>
      .table [] (settledOption header) (settledList rows) align (withMembers [] m)
  | .unknown name value cs m => .unknown name value (settledList cs) (withMembers [] m)

def settledList : List Node → List Node
  | [] => []
  | n :: ns => settled n :: settledList ns

def settledOption : Option Node → Option Node
  | none => none
  | some n => some (settled n)

end

theorem settledList_eq_map (ns : List Node) : settledList ns = ns.map settled := by
  induction ns with
  | nil => rw [settledList,List.map_nil]
  | cons n ns ih => rw [settledList,ih,List.map_cons]

theorem settledOption_eq_map (n : Option Node) : settledOption n = n.map settled := by
  cases n <;> rw [settledOption] <;> rfl

theorem dumpList_eq_map (ns : List Node) : dumpList ns = ns.map dump := by
  induction ns with
  | nil => rw [dumpList,List.map_nil]
  | cons n ns ih => rw [dumpList,ih,List.map_cons]

/-- With a header or rows, the body of a table is not written. -/
theorem settled_table_split (body : List Node) {header : Option Node} {rows : List Node}
    (h : ¬(header = none ∧ rows = [])) (align : List Value) (m : Members) :
    settled (.table body header rows align m) =
      .table [] (header.map settled) (rows.map settled) align (withMembers [] m) := by
  rw [settled,settledOption_eq_map,settledList_eq_map]
  rintro rfl rfl
  exact h ⟨rfl,rfl⟩

/-- The parts that are left are those of the tree, each without what its value does not say. -/
theorem source_of_mem_settled_parts {n part : Node} (h : part ∈ n.settled.parts) :
    ∃ p ∈ n.parts, p.settled = part := by
  cases n with
  | leaf => cases h
  | container kind cs m => simpa [settled,parts,settledList_eq_map] using h
  | table body header rows align m =>
    by_cases hs : header = none ∧ rows = []
    · obtain ⟨rfl,rfl⟩ := hs
      simpa [settled,parts,settledList_eq_map] using h
    · rw [settled_table_split body hs] at h
      simp only [parts,List.nil_append,List.mem_append,Option.mem_toList,Option.map_eq_some_iff,
        List.mem_map] at h ⊢
      rcases h with ⟨p,hp,he⟩ | ⟨p,hp,he⟩
      · exact ⟨p,.inl (.inr hp),he⟩
      · exact ⟨p,.inr hp,he⟩
  | unknown name value cs m => simpa [settled,parts,settledList_eq_map] using h

theorem dumpList_settledList {ns : List Node} (h : ∀ n ∈ ns, dump n.settled = dump n) :
    dumpList (settledList ns) = dumpList ns := by
  rw [settledList_eq_map,dumpList_eq_map,dumpList_eq_map,List.map_map]
  exact List.map_congr_left h

/-- The tree has the same value without what its value does not say. -/
theorem dump_settled (n : Node) : dump n.settled = dump n := by
  induction n using parts_induction with
  | h n ih =>
    cases n with
    | leaf kind m => rw [settled,dump,dump,withMembers_withMembers,withMembers_nil]
    | container kind cs m =>
      have hc : dumpList (settledList cs) = dumpList cs := dumpList_settledList ih
      rw [settled,dump,dump,withMembers_withMembers,withMembers_nil,hc]
    | table body header rows align m =>
      by_cases hs : header = none ∧ rows = []
      · obtain ⟨rfl,rfl⟩ := hs
        have hb : dumpList (settledList body) = dumpList body :=
          dumpList_settledList fun n hn => ih n (by simp [parts,hn])
        rw [settled,dump_table,dump_table,withMembers_withMembers,withMembers_nil,tableFields,
          tableFields,hb]
      · -- the body is not written, whatever it holds
        have hh : dumpOption (header.map settled) = dumpOption header := by
          cases header with
          | none => rfl
          | some n => simp only [Option.map_some,dumpOption,ih n (by simp [parts])]
        have hr : dumpList (rows.map settled) = dumpList rows := by
          rw [← settledList_eq_map]
          exact dumpList_settledList fun n hn => ih n (by simp [parts,hn])
        rw [settled_table_split body hs,dump_table,dump_table,withMembers_withMembers,
          withMembers_nil,tableFields_split body hs,tableFields_split [] (by simpa using hs),hh,hr]
    | unknown name value cs m =>
      have hc : dumpList (settledList cs) = dumpList cs := dumpList_settledList ih
      rw [settled,dump_unknown,dump_unknown,withMembers_withMembers,withMembers_nil]
      cases cs with
      | nil => rw [settledList]
      | cons c cs =>
        rw [settledList] at hc ⊢
        simp only [unknownFields,hc]

/-! ## Reading again -/

section
variable {mode : LoadMode} {ms : Members} {tag : String} {fields : List String}

theorem fields_of_leafOf? {kind : Leaf} (h : leafOf? tag ms = some (.ok kind,fields)) :
    fields = leafFieldNames kind := by
  unfold leafOf? at h
  split at h
  case h_7 => cases h
  all_goals
    simp only [Option.some.injEq,Prod.mk.injEq,map_eq_ok,bind_eq_ok,Except.ok.injEq] at h
  case h_1 | h_2 =>
    obtain ⟨⟨_,-,rfl⟩,rfl⟩ := h
    rfl
  case h_3 | h_4 =>
    obtain ⟨⟨_,-,_,-,_,-,rfl⟩,rfl⟩ := h
    rfl
  case h_5 | h_6 =>
    obtain ⟨rfl,rfl⟩ := h
    rfl

theorem keepsDepth_of_headingDepth {depth : Depth} (h : headingDepth mode ms = .ok depth) :
    KeepsDepth mode depth := by
  unfold headingDepth at h
  cases mode with
  | strict =>
    dsimp only at h
    split at h
    · cases h
    · split_ifs at h with hr
      cases h
      exact ⟨hr,nofun⟩
  | lenient =>
    dsimp only at h
    split at h
    · cases h
      exact ⟨rfl,fun _ => ⟨_,rfl⟩⟩
    · split_ifs at h with hr
      · cases h
        exact ⟨hr,fun _ => ⟨_,rfl⟩⟩
      · cases h
        refine ⟨?_,fun _ => ⟨_,rfl⟩⟩
        rw [inRange_number]
        omega

/-- A container takes the fields of its kind, a heading its rank from one of them, and a list its
start. -/
theorem fields_of_containerOf? {kind : Container}
    (h : containerOf? mode tag ms = some (.ok (.ok kind),fields)) :
    fields = containerFieldNames kind ∧
      (∀ depth, kind = .heading depth → headingDepth mode ms = .ok depth) ∧
      ∀ ordered start spread, kind = .list ordered (some start) spread →
        ∃ v, ms.get? "start" = some v ∧ Count.ofValue? v = some start := by
  unfold containerOf? at h
  split at h
  case h_13 => cases h
  all_goals
    simp only [Option.some.injEq,Prod.mk.injEq,map_eq_ok,Except.ok.injEq] at h
  case h_2 =>
    obtain ⟨⟨depth,hd,rfl⟩,rfl⟩ := h
    refine ⟨rfl,?_,nofun⟩
    rintro _ ⟨⟩
    exact hd
  case h_5 =>
    obtain ⟨rfl,rfl⟩ := h
    refine ⟨rfl,nofun,fun ordered start spread he => ?_⟩
    simp only [Container.list.injEq] at he
    exact Option.bind_eq_some_iff.mp he.2.1
  case h_12 =>
    obtain ⟨⟨_,-,_,-,rfl⟩,rfl⟩ := h
    exact ⟨rfl,nofun,nofun⟩
  all_goals
    obtain ⟨rfl,rfl⟩ := h
    exact ⟨rfl,nofun,nofun⟩

theorem mem_keys_extraMembers {key : String} (h : key ∈ (extraMembers ms fields).keys) :
    key ∈ ms.keys ∧ key ≠ "type" ∧ key ∉ fields := by
  obtain ⟨m,hm,rfl⟩ := List.mem_map.mp h
  simp only [extraMembers,List.mem_filter,Bool.and_eq_true,bne_iff_ne,Bool.not_eq_true',
    List.contains_eq_mem,decide_eq_false_iff_not] at hm
  exact ⟨List.mem_map_of_mem hm.1,hm.2⟩

/-- What a reading lets a node carry along has none of the names of its fields, and it keeps the
rank that it gave to a heading. -/
theorem Loads.keeps {v : Value} {n : Node} (h : Loads mode v n) :
    (∀ key ∈ n.metadata.keys, key ≠ "type" ∧ key ∉ n.fieldNames) ∧ n.KeepsKind mode := by
  cases h with
  | blank => exact ⟨nofun,trivial⟩
  | leaf hk =>
    obtain rfl := fields_of_leafOf? hk
    exact ⟨fun key hm => (mem_keys_extraMembers hm).2,trivial⟩
  | @container _ _ kind _ _ hk _ =>
    obtain ⟨rfl,hd,-⟩ := fields_of_containerOf? hk
    refine ⟨fun key hm => (mem_keys_extraMembers hm).2,?_⟩
    cases kind with
    | heading depth => exact keepsDepth_of_headingDepth (hd depth rfl)
    | _ => exact trivial
  | table => exact ⟨fun key hm => (mem_keys_extraMembers hm).2,trivial⟩
  | unknown hn he => exact ⟨fun key hm => (mem_keys_extraMembers hm).2,hn,he⟩

theorem KeepsKind.rankInRange {n : Node} (h : n.KeepsKind mode) : n.RankInRange := by
  unfold RankInRange
  split
  · exact h.1
  · trivial

theorem apart_withMembers {names : List String} {m : Members}
    (h : ∀ key ∈ m.keys, key ≠ "type" ∧ key ∉ names) : Apart names (withMembers [] m) := by
  refine ⟨nodup_withMembers Members.nodup_keys_nil m,fun key hk => h key ?_⟩
  simpa [Members.keys] using mem_keys_withMembers.mp hk

/-- What is left of a tree that was read is found again in its value. -/
theorem Loads.settled_reloadable {n : Node}
    (h : Everywhere (fun n => ∃ v, Loads mode v n) n) : Reloadable mode n.settled := by
  induction h with
  | @intro n hn _ ih =>
    obtain ⟨v,hv⟩ := hn
    obtain ⟨hm,hk⟩ := hv.keeps
    refine .intro ?_ fun part hp => ?_
    · cases n with
      | leaf kind m =>
        rw [settled]
        exact ⟨apart_withMembers hm,trivial,trivial⟩
      | container kind cs m =>
        rw [settled]
        exact ⟨apart_withMembers hm,by cases kind <;> exact hk,trivial⟩
      | table body header rows align m =>
        by_cases hs : header = none ∧ rows = []
        · obtain ⟨rfl,rfl⟩ := hs
          rw [settled]
          exact ⟨apart_withMembers hm,trivial,.inr ⟨rfl,rfl⟩⟩
        · rw [settled_table_split body hs]
          exact ⟨apart_withMembers hm,trivial,.inl rfl⟩
      | unknown name value cs m =>
        rw [settled]
        exact ⟨apart_withMembers hm,hk,trivial⟩
    · obtain ⟨source,hs,rfl⟩ := source_of_mem_settled_parts hp
      exact ih source hs

end

/-- The value of a tree that was read is read as the tree without what its value does not say. -/
theorem load_dump_of_load {mode : LoadMode} {v : Value} {n : Node} (h : load mode v = .ok n) :
    load mode (dump n) = .ok n.settled := by
  have hl : Everywhere (fun n => ∃ v, Loads mode v n) n :=
    everywhere_of_load (Q := fun _ => True) (fun _ _ _ _ => trivial) (fun v n _ hl => ⟨v,hl⟩)
      trivial h
  rw [← dump_settled n,load_dump_of_reloadable (Loads.settled_reloadable hl)]

/-! ## Writing again -/

section
variable {mode : LoadMode} {ms : Members} {fields : List String}

theorem writable_parts (v : Value) (h : Writable v) : ∀ w ∈ v.parts, Writable w := by
  cases h with
  | list h => exact h
  | object _ h =>
    intro w hw
    obtain ⟨m,hm,rfl⟩ := List.mem_map.mp hw
    exact h m hm
  | _ => nofun

theorem writable_of_get? (h : Writable (.object ms)) {key : String} {v : Value}
    (hv : ms.get? key = some v) : Writable v :=
  writable_parts _ h v (mem_parts_of_get? hv)

theorem isCanonical_of_headingDepth (h : Writable (.object ms)) {x : Double}
    (hd : headingDepth mode ms = .ok (.real x)) : x.IsCanonical := by
  unfold headingDepth at hd
  cases mode with
  | strict =>
    dsimp only at hd
    split at hd
    · cases hd
    · next depth hg =>
      split_ifs at hd
      cases hd
      cases hv : ms.get? "depth" with
      | none =>
        rw [hv] at hg
        cases hg
      | some v =>
        rw [hv,Option.getD_some] at hg
        cases writable_of_get? h hv with
        | float hx =>
          cases hg
          exact hx
        | _ => cases hg
  | lenient =>
    dsimp only at hd
    split at hd
    · cases hd
    · split_ifs at hd <;> cases hd

theorem writable_start (h : Writable (.object ms)) {start : Count} {v : Value}
    (hv : ms.get? "start" = some v) (hs : Count.ofValue? v = some start) :
    Writable start.toValue := by
  cases writable_of_get? h hv with
  | int hn =>
    cases hs
    exact .int hn
  | bool b =>
    cases hs
    exact .bool b
  | _ => cases hs

theorem writable_alignment (h : Writable (.object ms)) {align : List Value}
    (ha : alignment ms = .ok align) : ∀ v ∈ align, Writable v := by
  unfold alignment at ha
  split at ha
  · cases ha
    nofun
  · next items hv =>
    cases ha
    exact writable_parts _ (writable_of_get? h hv)
  · cases ha
    exact List.forall_mem_map.mpr fun c _ => .text _
  · cases ha
    exact List.forall_mem_map.mpr fun m _ => .text _
  · split_ifs at ha
    cases ha
    nofun

/-- A node that is read from a value that can be written carries along members with names and texts
of their own. -/
theorem Loads.writable {v : Value} {n : Node} (h : Loads mode v n) (hw : Writable v) :
    Apart n.fieldNames n.metadata ∧ n.RankInRange ∧ n.HoldsWritable := by
  obtain ⟨hk,hr⟩ := h.keeps
  have hr : n.RankInRange := hr.rankInRange
  have hm {ms : Members} (hw : Writable (.object ms)) (fields : List String) :
      (extraMembers ms fields).keys.Nodup ∧ ∀ x ∈ extraMembers ms fields, Writable x.2 := by
    cases hw with
    | object hn hm =>
      exact ⟨hn.sublist (List.filter_sublist.map _),fun x hx => hm x (List.mem_filter.mp hx).1⟩
  cases h with
  | blank => exact ⟨⟨Members.nodup_keys_nil,hk⟩,hr,nofun,trivial⟩
  | leaf => exact ⟨⟨(hm hw _).1,hk⟩,hr,(hm hw _).2,trivial⟩
  | @container _ _ kind _ _ hc _ =>
    obtain ⟨-,hd,hs⟩ := fields_of_containerOf? hc
    refine ⟨⟨(hm hw _).1,hk⟩,hr,(hm hw _).2,?_⟩
    cases kind with
    | heading depth =>
      cases depth with
      | count => exact trivial
      | real x => exact isCanonical_of_headingDepth hw (hd _ rfl)
    | list ordered start spread =>
      cases start with
      | none => exact trivial
      | some start =>
        obtain ⟨v,hv,hs⟩ := hs _ start _ rfl
        exact writable_start hw hv hs
    | _ => exact trivial
  | table _ _ _ ha => exact ⟨⟨(hm hw _).1,hk⟩,hr,(hm hw _).2,writable_alignment hw ha⟩
  | unknown => exact ⟨⟨(hm hw _).1,hk⟩,hr,(hm hw _).2,trivial⟩

end

/-- The text with this indent of the tree that a text denotes, if it denotes one. -/
def rewritten (mode : LoadMode) (indent : Option ℕ) (text : String) : Option String := do
  let v ← (Json.read text).toOption
  let n ← (load mode v).toOption
  Json.print? (dump n) indent

theorem rewritten_eq_some {mode : LoadMode} {indent : Option ℕ} {text written : String} :
    rewritten mode indent text = some written ↔ ∃ v n, Json.read text = .ok v ∧
      load mode v = .ok n ∧ Json.print? (dump n) indent = some written := by
  simp [rewritten,Option.bind_eq_some_iff,toOption_eq_some]

/-- The value of a tree that a text denotes can be written. -/
theorem writable_dump_of_read {mode : LoadMode} {text : String} {v : Value} {n : Node}
    (hv : Json.read text = .ok v) (hn : load mode v = .ok n) : Writable (dump n) :=
  writable_dump_of_apart <|
    everywhere_of_load writable_parts (fun _ _ hw hl => hl.writable hw)
      (Json.writable_of_read hv) hn

theorem exists_rewritten {mode : LoadMode} {text : String} {v : Value} {n : Node}
    (hv : Json.read text = .ok v) (hn : load mode v = .ok n) (indent : Option ℕ) :
    ∃ written, rewritten mode indent text = some written ∧ Json.read written = .ok (dump n) := by
  obtain ⟨written,hp,hr⟩ := Json.exists_print? (writable_dump_of_read hv hn) indent
  exact ⟨written,rewritten_eq_some.mpr ⟨v,n,hv,hn,hp⟩,hr⟩

/-- The value of a tree that was read is read again, as a tree of the same value. So what is written
for a text is written for itself. -/
theorem canonical_dump (mode : LoadMode) :
    (∀ v n, load mode v = .ok n → load mode (dump n) = .ok n.settled ∧ dump n.settled = dump n) ∧
      ∀ indent text written, rewritten mode indent text = some written →
        rewritten mode indent written = some written := by
  refine ⟨fun v n h => ⟨load_dump_of_load h,dump_settled n⟩,fun indent text written h => ?_⟩
  obtain ⟨v,n,hv,hn,hp⟩ := rewritten_eq_some.mp h
  obtain ⟨found,hf,hr⟩ := exists_rewritten hv hn indent
  obtain rfl := Option.some.inj (hf.symm.trans h)
  exact rewritten_eq_some.mpr ⟨dump n,n.settled,hr,load_dump_of_load hn,by rw [dump_settled,hp]⟩

/-- A value that the lenient reading makes do with: a heading without such a rank, a table in both
shapes, and an object and a number that are no nodes. -/
def sampleValue : Value :=
  let cell (s : String) : Value := .object [("type",.text "tableCell"),("note",.text s)]
  let heading : Value := .object [("depth",.int 9),("type",.text "heading"),("id",.int 1)]
  let table : Value := .object
    [("type",.text "table"),("rows",.list [cell "a"]),("children",.list [cell "b"]),
      ("header",.list [cell "c",cell "d"]),("align",.text "lr")]
  let loose : Value := .object [("value",.bool true),("children",.list [.int 3])]
  .object [("extra",.null),("children",.list [heading,table,loose]),("type",.text "root")]

def sampleRead : Node :=
  let cell (s : String) : Node := .container .tableCell [] [("note",.text s)]
  let heading : Node := .container (.heading (.count (.number 6))) [] [("id",.int 1)]
  let table : Node := .table [cell "b"] (some (cell "c")) [cell "a"] [.text "l",.text "r"] []
  .container .document [heading,table,.unknown "" (some "True") [text ""] []] [("extra",.null)]

def sampleText : String := "\x7b\"type\": \"heading\", \"depth\": 6, \"children\": []\x7d"

theorem canonical_dump_sampleValue : load .lenient sampleValue = .ok sampleRead ∧
    load .lenient (dump sampleRead) = .ok sampleRead.settled ∧
    dump sampleRead.settled = dump sampleRead ∧
    rewritten .lenient none "\x7b\"depth\": 9, \"type\": \"heading\"\x7d" = some sampleText ∧
    rewritten .lenient none sampleText = some sampleText := by
  have hr : load .lenient sampleValue = .ok sampleRead := rfl
  have hw : rewritten .lenient none "\x7b\"depth\": 9, \"type\": \"heading\"\x7d" =
      some sampleText := by decide +kernel
  obtain ⟨hl,hd⟩ := (canonical_dump .lenient).1 sampleValue sampleRead hr
  exact ⟨hr,hl,hd,hw,(canonical_dump .lenient).2 _ _ _ hw⟩

end ChatMarkup.Node
