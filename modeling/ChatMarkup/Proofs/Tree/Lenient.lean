import ChatMarkup.Proofs.Tree.Failing

/-!
# The lenient reading

The lenient reading makes do with everything but two: a table whose alignment is a number or true
cannot be read, and neither can a node with a number of too many digits where a text is wanted. It
gives a tree for exactly those values in which it comes to no such node. Values that are not read as
nodes, such as those among the further members of an object, do not matter.
-/
namespace ChatMarkup.Node
open Value
variable {ms : Members} {u v w : Value}

def itemsUnder (key : String) (ms : Members) : List Value :=
  match ms.get? key with
  | some (.list items) => items
  | _ => []

/-- The value that is read as the header of a table, if there is one. -/
def headerUnder (ms : Members) : List Value :=
  match ms.get? "header" with
  | some (.object hs) => [.object hs]
  | some (.list (item :: _)) => [item]
  | _ => []

/-- The values that are read for the nodes right below the node that a value is. -/
def nodesIn : Value → List Value
  | .object ms =>
    match tag? ms with
    | none => itemsUnder "children" ms
    | some tag =>
      if (leafOf? tag ms).isSome then []
      else if tag = "table" then
        headerUnder ms ++ itemsUnder "children" ms ++ itemsUnder "rows" ms
      else itemsUnder "children" ms
  | _ => []

/-- A value that is read as a node when another is. -/
inductive Read (v : Value) : Value → Prop
  | top : Read v v
  | child {u w : Value} : Read v u → w ∈ nodesIn u → Read v w

theorem Read.after (hu : u ∈ nodesIn v) (h : Read u w) : Read v w := by
  induction h with
  | top => exact .child .top hu
  | child _ hw ih => exact .child ih hw

theorem inside_of_mem_itemsUnder {key : String} (h : w ∈ itemsUnder key ms) :
    ∃ u ∈ (object ms).parts, Inside w u := by
  unfold itemsUnder at h
  split at h
  · next items hk => exact ⟨_,mem_parts_of_get? hk,inside_of_mem h⟩
  · cases h

theorem inside_of_mem_headerUnder (h : w ∈ headerUnder ms) :
    ∃ u ∈ (object ms).parts, Inside w u := by
  unfold headerUnder at h
  split at h
  · next hs hk =>
    obtain rfl := List.mem_singleton.mp h
    exact ⟨_,mem_parts_of_get? hk,.refl _⟩
  · next item more hk =>
    obtain rfl := List.mem_singleton.mp h
    exact ⟨_,mem_parts_of_get? hk,inside_of_mem List.mem_cons_self⟩
  · cases h

theorem inside_of_mem_nodesIn (h : w ∈ nodesIn v) : ∃ u ∈ v.parts, Inside w u := by
  unfold nodesIn at h
  split at h
  · next ms =>
    split at h
    · exact inside_of_mem_itemsUnder h
    · split_ifs at h
      · cases h
      · simp only [List.mem_append] at h
        rcases h with (h | h) | h
        · exact inside_of_mem_headerUnder h
        · exact inside_of_mem_itemsUnder h
        · exact inside_of_mem_itemsUnder h
      · exact inside_of_mem_itemsUnder h
  · cases h

/-! ## One value -/

def Loadable (v : Value) : Prop := ∃ n, load .lenient v = .ok n

theorem loadRow_lenient (key : String) (type : Value) (ms : Members) :
    loadRow .lenient key type ms = (itemsUnder key ms).mapM (load .lenient) := by
  rw [loadRow_eq,itemsUnder]
  cases ms.get? key with
  | none => rfl
  | some v =>
    cases v with
    | list items => exact loadItems_eq_mapM .lenient items
    | _ => rfl

theorem exists_loadRow_eq_ok (key : String) (type : Value) (ms : Members) :
    (∃ ns, loadRow .lenient key type ms = .ok ns) ↔ ∀ w ∈ itemsUnder key ms, Loadable w := by
  rw [loadRow_lenient]
  exact exists_mapM_eq_ok

theorem exists_loadHeader_eq_ok (ms : Members) :
    (∃ header, loadHeader .lenient ms = .ok header) ↔ ∀ w ∈ headerUnder ms, Loadable w := by
  rw [loadHeader_eq,headerUnder]
  cases ms.get? "header" with
  | none => simp
  | some v =>
    cases v with
    | object hs => simp [map_eq_ok,Loadable]
    | list items => cases items <;> simp [map_eq_ok,Loadable]
    | _ => simp

theorem misplaced_lenient_iff : Misplaced .lenient (.object ms) ↔
    tag? ms = some "table" ∧ ∃ v, ms.get? "align" = some v ∧ isNonzero v = true := by
  constructor
  · intro h
    cases h with
    | depth hm => cases hm
    | align ht hv hz => exact ⟨ht,_,hv,hz⟩
  · rintro ⟨ht,v,hv,hz⟩
    exact .align ht hv hz

theorem exists_alignment_eq_ok (ms : Members) : (∃ align, alignment ms = .ok align) ↔
    ¬∃ v, ms.get? "align" = some v ∧ isNonzero v = true := by
  constructor
  · rintro ⟨align,ha⟩ ⟨v,hv,hz⟩
    rw [alignment_of_nonzero hv hz] at ha
    cases ha
  · intro h
    cases ha : alignment ms with
    | ok align => exact ⟨align,rfl⟩
    | error e =>
      obtain ⟨v,hv,hz,-⟩ := nonzero_of_alignment ha
      exact absurd ⟨v,hv,hz⟩ h

/-- The lenient reading refuses a value for its alignment, or for a text that is too long. -/
theorem Refuses.lenient {e : LoadError} (h : Refuses .lenient v e) :
    (Misplaced .lenient v ∧ ∃ kind, e = .alignKind kind) ∨ (HasLongText v ∧ e = .longNumber) := by
  cases h with
  | notObject hm => cases hm
  | noType hm => cases hm
  | notList _ hm => cases hm
  | depthRange hm => cases hm
  | longDepth hm => cases hm
  | depthKind hm => cases hm
  | alignKind ht hv hz => exact .inl ⟨.align ht hv hz,_,rfl⟩
  | longText hl => exact .inr ⟨hl,rfl⟩

theorem exists_headingDepth (ms : Members) : ∃ depth, headingDepth .lenient ms = .ok depth := by
  unfold headingDepth
  dsimp only
  split
  · exact ⟨_,rfl⟩
  · split_ifs
    · exact ⟨_,rfl⟩
    · exact ⟨_,rfl⟩

/-- A container can be read if its texts can: a rank is always found for a heading. -/
theorem exists_container {tag : String} {fields : List String}
    {kind : Except LoadError (Except LoadError Container)} (ht : tag? ms = some tag)
    (h : containerOf? .lenient tag ms = some (kind,fields)) :
    (∃ k, kind = .ok (.ok k)) ↔ ¬HasLongText (.object ms) := by
  rw [not_hasLongText_iff,ht]
  by_cases hg : tag = "heading"
  · subst hg
    cases h
    obtain ⟨depth,hd⟩ := exists_headingDepth ms
    simp [hd,Except.map,textKeys,knownTags]
  · exact (containerOf?_outcome hg h).2

/-- A value that cannot be read, whatever its nodes are. -/
def Unreadable (v : Value) : Prop := Misplaced .lenient v ∨ HasLongText v

theorem loadable_table (ht : tag? ms = some "table") :
    Loadable (.object ms) ↔
      ¬Unreadable (.object ms) ∧ ∀ w ∈ nodesIn (.object ms), Loadable w := by
  have hl : leafOf? "table" ms = none := rfl
  have hn : nodesIn (.object ms) =
      headerUnder ms ++ itemsUnder "children" ms ++ itemsUnder "rows" ms := by
    simp [nodesIn,ht,hl]
  have hx : ¬HasLongText (.object ms) := by
    rw [not_hasLongText_iff,ht]
    simp [textKeys,knownTags]
  have hm : Unreadable (.object ms) ↔
      ∃ v, ms.get? "align" = some v ∧ isNonzero v = true := by
    simp [Unreadable,misplaced_lenient_iff,ht,hx]
  rw [hn,hm,← exists_alignment_eq_ok,List.forall_mem_append,List.forall_mem_append,
    ← exists_loadHeader_eq_ok,← exists_loadRow_eq_ok "children" (.text "table"),
    ← exists_loadRow_eq_ok "rows" (.text "table"),Loadable,load.eq_def]
  simp only [ht,hl,beq_self_eq_true,if_true]
  rw [exists_bind_eq_ok fun header => exists_bind_eq_ok fun body => exists_bind_eq_ok fun rows =>
    exists_bind_eq_ok (p := True) fun align => by simp]
  tauto

theorem unreadable_iff {tag : Option String} (ht : tag? ms = tag) (hn : tag ≠ some "table") :
    Unreadable (.object ms) ↔ HasLongText (.object ms) := by
  have hm : ¬Misplaced .lenient (.object ms) := by simp [misplaced_lenient_iff,ht,hn]
  simp [Unreadable,hm]

/-- A node of no known kind can be read if its text and its children can. -/
theorem loadable_unknown (name : String) (type : Value) (hv : textKeys (tag? ms) = ["value"]) :
    (∃ n, (do
      let value ← textField? ms "value"
      let cs ← loadRow .lenient "children" type ms
      .ok (.unknown name value cs (extraMembers ms ["value","children"])) :
        Except LoadError Node) = .ok n) ↔
      ¬HasLongText (.object ms) ∧ ∀ w ∈ itemsUnder "children" ms, Loadable w := by
  rw [not_hasLongText_iff,hv,List.forall_mem_singleton,← exists_loadRow_eq_ok "children" type]
  exact exists_bind_eq_ok fun value => by
    rw [exists_bind_eq_ok (p := True) fun cs => by simp,and_true]

theorem loadable_untagged (ht : tag? ms = none) :
    Loadable (.object ms) ↔
      ¬Unreadable (.object ms) ∧ ∀ w ∈ nodesIn (.object ms), Loadable w := by
  have hn : nodesIn (.object ms) = itemsUnder "children" ms := by simp [nodesIn,ht]
  rw [hn,unreadable_iff ht nofun,Loadable,load.eq_def]
  simp only [ht]
  exact loadable_unknown _ _ (by rw [ht,textKeys])

theorem loadable_tagged {tag : String} (ht : tag? ms = some tag) (hb : tag ≠ "table") :
    Loadable (.object ms) ↔
      ¬Unreadable (.object ms) ∧ ∀ w ∈ nodesIn (.object ms), Loadable w := by
  rw [unreadable_iff ht (by simpa using hb)]
  cases hl : leafOf? tag ms with
  | some leaf =>
    obtain ⟨kind,fields⟩ := leaf
    have hn : nodesIn (.object ms) = [] := by simp [nodesIn,ht,hl]
    rw [hn,not_hasLongText_iff,ht,← (leafOf?_outcome hl).2,Loadable,load.eq_def]
    cases kind <;> simp [ht,hl,Except.map]
  | none =>
    have hn : nodesIn (.object ms) = itemsUnder "children" ms := by simp [nodesIn,ht,hl,hb]
    rw [hn,Loadable,load.eq_def]
    simp only [ht,hl,beq_iff_eq,hb,if_false]
    cases hk : containerOf? .lenient tag ms with
    | none =>
      exact loadable_unknown _ _ (by rw [ht,textKeys_of_notMem (notMem_knownTags hl hb hk)])
    | some found =>
      obtain ⟨kind,fields⟩ := found
      rw [← exists_container ht hk,← exists_loadRow_eq_ok "children" (.text tag)]
      rcases kind with e | e | k
      · simp [bind,Except.bind]
      · cases loadRow .lenient "children" (.text tag) ms <;> simp [bind,Except.bind]
      · cases loadRow .lenient "children" (.text tag) ms <;> simp [bind,Except.bind]

/-- A value can be read unless something in itself cannot or a node in it cannot be read. -/
theorem loadable_iff (v : Value) :
    Loadable v ↔ ¬Unreadable v ∧ ∀ w ∈ nodesIn v, Loadable w := by
  cases v with
  | object ms =>
    cases ht : tag? ms with
    | none => exact loadable_untagged ht
    | some tag =>
      by_cases hb : tag = "table"
      · exact loadable_table (hb ▸ ht)
      · exact loadable_tagged ht hb
  | _ =>
    -- What is not an object is read as an empty text.
    refine ⟨fun _ => ⟨?_,by simp [nodesIn]⟩,fun _ => ⟨text "",by rw [load.eq_def]⟩⟩
    rintro (h | h) <;> cases h

/-! ## All that is read -/

theorem Read.loadable (h : Read v w) (hv : Loadable v) : Loadable w := by
  induction h with
  | top => exact hv
  | child _ hw ih => exact ((loadable_iff _).mp ih).2 _ hw

/-- The lenient reading gives a tree if and only if it comes to no table whose alignment is a number
or true, and to no number of too many digits where a text is wanted. -/
theorem loadable_iff_forall_read (v : Value) :
    Loadable v ↔ ∀ w, Read v w → ¬Misplaced .lenient w ∧ ¬HasLongText w := by
  simp only [← not_or]
  constructor
  · exact fun hv w hw => ((loadable_iff w).mp (hw.loadable hv)).1
  · intro h
    -- Nodes stand in lists under a key, so a value that is read need not be a part of the other.
    induction v using inside_induction with
    | h v ih =>
      refine (loadable_iff v).mpr ⟨h v .top,fun w hw => ?_⟩
      obtain ⟨u,hu,hi⟩ := inside_of_mem_nodesIn hw
      exact ih u hu w hi fun x hx => h x (hx.after hw)

/-- It fails for no other reason, and says which: with the kind of the alignment, or with the number
that is too long. -/
theorem exists_read_of_load_error {e : LoadError} (h : load .lenient v = .error e) :
    (∃ w, Read v w ∧ (Misplaced .lenient w ∨ HasLongText w)) ∧
      ((∃ kind, e = .alignKind kind) ∨ e = .longNumber) := by
  constructor
  · by_contra hn
    obtain ⟨n,hl⟩ := (loadable_iff_forall_read v).mpr fun w hw =>
      not_or.mp fun hm => hn ⟨w,hw,hm⟩
    rw [h] at hl
    cases hl
  · obtain ⟨w,-,hw⟩ := exists_refuses h
    exact hw.lenient.imp And.right And.right

def numberAligned : Value := .object [("type",.text "table"),("align",.int 1)]

theorem load_numberAligned : load .lenient numberAligned = .error (.alignKind "int") :=
  rfl

end ChatMarkup.Node
