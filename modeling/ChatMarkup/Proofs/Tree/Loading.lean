import ChatMarkup.Proofs.Data.Inside
import ChatMarkup.Proofs.Data.Outcomes
import ChatMarkup.Proofs.Tree.Restoring

/-!
# What a reading makes of a value

A reading looks at the tag of an object and makes a node of that kind, of its fields and of the
trees that are read from the values in it. Said once for each kind, this is all that is needed about
nodes that have been read: what holds for a node whatever its parts holds everywhere in the tree. In
the same way, a reading that fails does so for one object or other value inside, and for a reason
that lies in this value alone.
-/
namespace ChatMarkup.Node
open Value

/-! ## Nodes that are read -/

inductive Loads (mode : LoadMode) : Value → Node → Prop
  | blank {v : Value} : mode = .lenient → (∀ ms, v ≠ .object ms) → Loads mode v (text "")
  | leaf {ms : Members} {tag : String} {kind : Leaf} {fields : List String} :
      leafOf? tag ms = some (.ok kind,fields) →
      Loads mode (.object ms) (.leaf kind (extraMembers ms fields))
  | container {ms : Members} {tag : String} {kind : Container} {fields : List String}
      {cs : List Node} : containerOf? mode tag ms = some (.ok (.ok kind),fields) →
      loadRow mode "children" (.text tag) ms = .ok cs →
      Loads mode (.object ms) (.container kind cs (extraMembers ms ("children" :: fields)))
  | table {ms : Members} {body : List Node} {header : Option Node} {rows : List Node}
      {align : List Value} : loadHeader mode ms = .ok header →
      loadRow mode "children" (.text "table") ms = .ok body →
      loadRow mode "rows" (.text "table") ms = .ok rows → alignment ms = .ok align →
      Loads mode (.object ms) (.table body header rows align (extraMembers ms tableFieldNames))
  | unknown {ms : Members} {name : String} {value : Option String} {type : Value}
      {cs : List Node} : name ∉ knownTags → (mode = .strict → name ≠ "") →
      textField? ms "value" = .ok value → loadRow mode "children" type ms = .ok cs →
      Loads mode (.object ms) (.unknown name value cs (extraMembers ms unknownFieldNames))

theorem notMem_knownTags {mode : LoadMode} {tag : String} {ms : Members}
    (hl : leafOf? tag ms = none) (ht : tag ≠ "table") (hc : containerOf? mode tag ms = none) :
    tag ∉ knownTags := by
  intro hm
  simp only [knownTags,List.mem_cons,List.not_mem_nil,or_false] at hm
  rcases hm with rfl | rfl | rfl | rfl | rfl | rfl | rfl | rfl | rfl | rfl | rfl | rfl | rfl | rfl |
    rfl | rfl | rfl | rfl | rfl <;> simp_all [leafOf?,containerOf?]

theorem tag?_ne_empty {ms : Members} {tag : String} (h : tag? ms = some tag) : tag ≠ "" := by
  unfold tag? at h
  split at h
  · split at h
    · cases h
    · next he =>
      rintro rfl
      cases h
      exact he rfl
  · cases h

theorem loads_of_load {mode : LoadMode} {v : Value} {n : Node} (h : load mode v = .ok n) :
    Loads mode v n := by
  rw [load.eq_def] at h
  split at h
  · next ms =>
    split at h
    · cases mode with
      | strict => cases h
      | lenient =>
        obtain ⟨value,hv,h⟩ := bind_eq_ok.mp h
        obtain ⟨cs,hr,h⟩ := bind_eq_ok.mp h
        cases h
        exact .unknown (by decide) (fun hm => absurd hm (by decide)) hv hr
    · next tag ht =>
      split at h
      · next hl =>
        obtain ⟨kind,rfl,rfl⟩ := map_eq_ok.mp h
        exact .leaf hl
      · next hl =>
        split_ifs at h with hb
        · obtain rfl : tag = "table" := by simpa using hb
          obtain ⟨header,hh,h⟩ := bind_eq_ok.mp h
          obtain ⟨body,hc,h⟩ := bind_eq_ok.mp h
          obtain ⟨rows,hr,h⟩ := bind_eq_ok.mp h
          obtain ⟨align,ha,h⟩ := bind_eq_ok.mp h
          cases h
          exact .table hh hc hr ha
        · split at h
          · next kind fields hk =>
            simp only [bind_eq_ok] at h
            obtain ⟨kind,rfl,cs,hr,kind,rfl,h⟩ := h
            cases h
            exact .container hk hr
          · next hk =>
            obtain ⟨value,hv,h⟩ := bind_eq_ok.mp h
            obtain ⟨cs,hr,h⟩ := bind_eq_ok.mp h
            cases h
            have hn := notMem_knownTags hl (by simpa using hb) hk
            exact .unknown hn (fun _ => tag?_ne_empty ht) hv hr
  · next hv =>
    cases mode with
    | strict => cases h
    | lenient =>
      cases h
      exact .blank rfl hv

theorem loadItems_eq_mapM (mode : LoadMode) (items : List Value) :
    loadItems mode items = items.mapM (load mode) := by
  induction items with
  | nil =>
    rw [loadItems.eq_def]
    rfl
  | cons v items ih =>
    rw [loadItems.eq_def,List.mapM_cons,← ih]
    rfl

/-! ## Trees in values -/

section
variable {mode : LoadMode} {ms : Members} {key : String} {type : Value}

/-- What is read from the list under a key is inside of that list. -/
theorem source_of_mem_row {ns : List Node} (h : loadRow mode key type ms = .ok ns) {n : Node}
    (hn : n ∈ ns) : ∃ u ∈ (object ms).parts, ∃ w, Inside w u ∧ load mode w = .ok n := by
  rw [loadRow_eq] at h
  split at h
  · cases h
    cases hn
  · cases h
    cases hn
  · next items hk =>
    rw [loadItems_eq_mapM] at h
    obtain ⟨i,hi,rfl⟩ := List.mem_iff_getElem.mp hn
    have hf := mapM_eq_ok.mp h
    have hl := hf.length_eq
    have hw := List.getElem_mem (hl ▸ hi : i < items.length)
    exact ⟨_,mem_parts_of_get? hk,_,inside_of_mem hw,hf.get (hl ▸ hi) hi⟩
  · cases mode with
    | strict => cases h
    | lenient =>
      cases h
      cases hn

theorem source_of_header {header : Option Node} (h : loadHeader mode ms = .ok header) {n : Node}
    (hn : n ∈ header) : ∃ u ∈ (object ms).parts, ∃ w, Inside w u ∧ load mode w = .ok n := by
  rw [loadHeader_eq] at h
  split at h
  · next hs hk =>
    obtain ⟨m,hm,rfl⟩ := map_eq_ok.mp h
    cases hn
    exact ⟨_,mem_parts_of_get? hk,_,.refl _,hm⟩
  · next item more hk =>
    obtain ⟨m,hm,rfl⟩ := map_eq_ok.mp h
    cases hn
    exact ⟨_,mem_parts_of_get? hk,_,inside_of_mem (by simp),hm⟩
  · cases h
    cases hn

/-- Every part of a node is read from a value inside of what the value of the node holds. -/
theorem Loads.source {v : Value} {n : Node} (h : Loads mode v n) {part : Node}
    (hp : part ∈ n.parts) : ∃ u ∈ v.parts, ∃ w, Inside w u ∧ load mode w = .ok part := by
  cases h with
  | blank => cases hp
  | leaf => cases hp
  | container _ hr => exact source_of_mem_row hr hp
  | table hh hb hr _ =>
    simp only [parts,List.mem_append,Option.mem_toList] at hp
    rcases hp with (hp | hp) | hp
    · exact source_of_mem_row hb hp
    · exact source_of_header hh hp
    · exact source_of_mem_row hr hp
  | unknown _ _ _ hr => exact source_of_mem_row hr hp

end

/-- What holds for every node that is read from a value of some kind holds everywhere in a tree that
is read from one, if what such values hold is of that kind as well. -/
theorem everywhere_of_load {mode : LoadMode} {Q : Value → Prop} {p : Node → Prop}
    (hQ : ∀ v, Q v → ∀ w ∈ v.parts, Q w) (hp : ∀ v n, Q v → Loads mode v n → p n) {v : Value}
    (hv : Q v) {n : Node} (h : load mode v = .ok n) : Everywhere p n := by
  induction v using inside_induction generalizing n with
  | h v ih =>
    have hl := loads_of_load h
    refine .intro (hp v n hv hl) fun part hm => ?_
    obtain ⟨u,hu,w,hw,hr⟩ := hl.source hm
    exact ih u hu w hw (hw.keeps hQ (hQ v hv u hu)) hr

/-! ## Members read as text -/

/-- The members that are read as text for a node with this tag, or without one. -/
def textKeys : Option String → List String
  | none => ["value"]
  | some "text" => ["value"]
  | some "inlineCode" => ["value"]
  | some "code" => ["value","lang","meta"]
  | some "image" => ["url","alt","title"]
  | some "link" => ["url","title"]
  | some tag => if tag ∈ knownTags then [] else ["value"]

/-- A member of an object that is read as text holds a number of too many digits. -/
def HasLongText : Value → Prop
  | .object ms => ∃ key ∈ textKeys (tag? ms), ∃ v, Members.get? ms key = some v ∧
      v.hasLongNumber = true
  | _ => False

section
variable {ms : Members} {tag key : String} {fields : List String} {e : LoadError}

theorem textField?_eq_error : textField? ms key = .error e ↔
    e = .longNumber ∧ ∃ v, ms.get? key = some v ∧ v.hasLongNumber = true := by
  unfold textField?
  cases hv : ms.get? key with
  | none => simp
  | some v =>
    cases v with
    | null => simp [Value.hasLongNumber]
    | _ =>
      dsimp only
      split_ifs with hl
      · rw [Except.error.injEq]
        exact ⟨fun he => ⟨he.symm,_,rfl,hl⟩,fun he => he.1.symm⟩
      · simp [hl]

/-- The texts of a node can be read together if each of them can. -/
theorem not_hasLongText_iff : ¬HasLongText (.object ms) ↔
    ∀ key ∈ textKeys (tag? ms), ∃ t, textField? ms key = .ok t := by
  have hf (key : String) : (∃ t, textField? ms key = .ok t) ↔
      ¬∃ v, ms.get? key = some v ∧ v.hasLongNumber = true := by
    cases hv : textField? ms key with
    | ok t =>
      refine ⟨fun _ hl => ?_,fun _ => ⟨t,rfl⟩⟩
      rw [textField?_eq_error.mpr ⟨rfl,hl⟩] at hv
      cases hv
    | error e => simpa using (textField?_eq_error.mp hv).2
  simp only [HasLongText,hf,not_exists,not_and]

theorem textField?_cases (ms : Members) (key : String) :
    textField? ms key = .error .longNumber ∨ ∃ t, textField? ms key = .ok t := by
  cases h : textField? ms key with
  | ok t => exact .inr ⟨t,rfl⟩
  | error e => exact .inl ((textField?_eq_error.mp h).1 ▸ rfl)

/-- A leaf is read if and only if each of its texts is. -/
theorem leafOf?_outcome {kind : Except LoadError Leaf} (h : leafOf? tag ms = some (kind,fields)) :
    (kind = .error .longNumber ∨ ∃ k, kind = .ok k) ∧
      ((∃ k, kind = .ok k) ↔ ∀ key ∈ textKeys (some tag), ∃ t, textField? ms key = .ok t) := by
  unfold leafOf? at h
  split at h
  case h_7 => cases h
  all_goals
    simp only [Option.some.injEq,Prod.mk.injEq] at h
    obtain ⟨rfl,-⟩ := h
  case h_1 | h_2 =>
    rcases textField?_cases ms "value" with hv | ⟨v,hv⟩ <;> simp [textKeys,textField,hv,Except.map]
  case h_3 =>
    rcases textField?_cases ms "value" with hv | ⟨v,hv⟩ <;>
      rcases textField?_cases ms "lang" with hl | ⟨l,hl⟩ <;>
        rcases textField?_cases ms "meta" with hm | ⟨m,hm⟩ <;>
          simp [textKeys,textField,hv,hl,hm,Except.map,bind,Except.bind]
  case h_4 =>
    rcases textField?_cases ms "url" with hu | ⟨u,hu⟩ <;>
      rcases textField?_cases ms "alt" with ha | ⟨a,ha⟩ <;>
        rcases textField?_cases ms "title" with ht | ⟨t,ht⟩ <;>
          simp [textKeys,textField,hu,ha,ht,Except.map,bind,Except.bind]
  case h_5 | h_6 => simp [textKeys,knownTags]

/-- Other containers than headings are read if and only if each of their texts is. -/
theorem containerOf?_outcome {mode : LoadMode}
    {kind : Except LoadError (Except LoadError Container)} (hn : tag ≠ "heading")
    (h : containerOf? mode tag ms = some (kind,fields)) :
    (kind = .error .longNumber ∨ kind = .ok (.error .longNumber) ∨ ∃ k, kind = .ok (.ok k)) ∧
      ((∃ k, kind = .ok (.ok k)) ↔
        ∀ key ∈ textKeys (some tag), ∃ t, textField? ms key = .ok t) := by
  unfold containerOf? at h
  split at h
  case h_2 => exact absurd rfl hn
  case h_13 => cases h
  all_goals
    simp only [Option.some.injEq,Prod.mk.injEq] at h
    obtain ⟨rfl,-⟩ := h
  case h_12 =>
    rcases textField?_cases ms "url" with hu | ⟨u,hu⟩ <;>
      rcases textField?_cases ms "title" with ht | ⟨t,ht⟩ <;>
        simp [textKeys,textField,hu,ht,Except.map]
  all_goals simp [textKeys,knownTags]

theorem textKeys_of_notMem (h : tag ∉ knownTags) : textKeys (some tag) = ["value"] := by
  unfold textKeys
  split <;> simp_all [knownTags]

end

/-! ## Values that are refused -/

/-- A number other than zero, where truth counts as one. -/
def isNonzero : Value → Bool
  | .bool b => b
  | .int n => n != 0
  | .float x => !x.isZero
  | _ => false

/-- Why a reading refuses a value, whatever else is inside of it. -/
inductive Refuses (mode : LoadMode) : Value → LoadError → Prop
  | notObject {v : Value} : mode = .strict → (∀ ms, v ≠ .object ms) →
      Refuses mode v (.notObject v.kindName)
  | noType {ms : Members} : mode = .strict → tag? ms = none → Refuses mode (.object ms) .noType
  | notList {ms : Members} {key : String} {v : Value} (type : Value) : mode = .strict →
      ms.get? key = some v → v ≠ .null → (∀ items, v ≠ .list items) →
      Refuses mode (.object ms) (.notList key type v.kindName)
  | depthRange {ms : Members} {d : Depth} {v : Value} : mode = .strict →
      tag? ms = some "heading" → (ms.get? "depth").getD (.int 1) = v →
      Depth.ofValue? v = some d → d.inRange = false → v.hasLongNumber = false →
      Refuses mode (.object ms) (.depthRange v)
  | longDepth {ms : Members} {v : Value} : mode = .strict → tag? ms = some "heading" →
      ms.get? "depth" = some v → v.hasLongNumber = true →
      Refuses mode (.object ms) .longNumber
  | depthKind {ms : Members} {v : Value} : mode = .strict → tag? ms = some "heading" →
      ms.get? "depth" = some v → Depth.ofValue? v = none →
      Refuses mode (.object ms) (.depthKind v.kindName)
  | alignKind {ms : Members} {v : Value} : tag? ms = some "table" → ms.get? "align" = some v →
      isNonzero v = true → Refuses mode (.object ms) (.alignKind v.kindName)
  | longText {v : Value} : HasLongText v → Refuses mode v .longNumber

section
variable {mode : LoadMode} {ms : Members} {key : String} {type : Value} {e : LoadError}

/-- A row cannot be read if it is no list, or if one of its items cannot. -/
theorem refused_of_row (h : loadRow mode key type ms = .error e) : Refuses mode (.object ms) e ∨
    ∃ u ∈ (object ms).parts, ∃ w, Inside w u ∧ load mode w = .error e := by
  rw [loadRow_eq] at h
  split at h
  · cases h
  · cases h
  · next items hk =>
    rw [loadItems_eq_mapM] at h
    obtain ⟨w,hw,he⟩ := exists_error_of_mapM h
    exact .inr ⟨_,mem_parts_of_get? hk,w,inside_of_mem hw,he⟩
  · next v hn hl hk =>
    cases mode with
    | strict =>
      cases h
      exact .inl (.notList type rfl hk hn hl)
    | lenient => cases h

theorem refused_of_header (h : loadHeader mode ms = .error e) :
    ∃ u ∈ (object ms).parts, ∃ w, Inside w u ∧ load mode w = .error e := by
  rw [loadHeader_eq] at h
  split at h
  · next hs hk => exact ⟨_,mem_parts_of_get? hk,_,.refl _,map_eq_error.mp h⟩
  · next item more hk => exact ⟨_,mem_parts_of_get? hk,_,inside_of_mem (by simp),map_eq_error.mp h⟩
  · cases h

theorem refuses_of_headingDepth (ht : tag? ms = some "heading")
    (h : headingDepth mode ms = .error e) : Refuses mode (.object ms) e := by
  unfold headingDepth at h
  cases mode with
  | strict =>
    dsimp only at h
    split at h
    · next hd =>
      cases h
      cases hg : ms.get? "depth" with
      | none =>
        rw [hg] at hd
        cases hd
      | some v =>
        rw [hg] at hd
        exact .depthKind rfl ht hg hd
    · next d hd =>
      split_ifs at h with hr hl
      · cases h
        cases hg : ms.get? "depth" with
        | none =>
          rw [hg] at hl
          cases hl
        | some v =>
          rw [hg] at hl
          exact .longDepth rfl ht hg hl
      · cases h
        exact .depthRange rfl ht rfl hd (by simpa using hr) (by simpa using hl)
  | lenient =>
    dsimp only at h
    split at h
    · cases h
    · split_ifs at h

theorem nonzero_of_alignment (h : alignment ms = .error e) :
    ∃ v, ms.get? "align" = some v ∧ isNonzero v = true ∧ e = .alignKind v.kindName := by
  unfold alignment at h
  split at h
  · cases h
  · cases h
  · cases h
  · cases h
  · next v hl hs ho hv =>
    split_ifs at h with hg
    cases h
    refine ⟨v,hv,?_,rfl⟩
    cases v with
    | null => exact hg
    | bool b => exact hg
    | int n => exact hg
    | float x => exact hg
    | text s => exact absurd rfl (hs s)
    | list items => exact absurd rfl (hl items)
    | object members => exact absurd rfl (ho members)

theorem refuses_of_alignment (ht : tag? ms = some "table") (h : alignment ms = .error e) :
    Refuses mode (.object ms) e := by
  obtain ⟨v,hv,hz,rfl⟩ := nonzero_of_alignment h
  exact .alignKind ht hv hz

theorem refuses_of_leafOf? {tag : String} {fields : List String} (ht : tag? ms = some tag)
    (h : leafOf? tag ms = some (.error e,fields)) : Refuses mode (.object ms) e := by
  obtain ⟨he | ⟨k,hk⟩,hf⟩ := leafOf?_outcome h
  · cases he
    refine .longText ?_
    by_contra hn
    obtain ⟨k,hk⟩ := hf.mpr (ht ▸ not_hasLongText_iff.mp hn)
    cases hk
  · cases hk

theorem refuses_of_containerOf? {tag : String} {fields : List String}
    {kind : Except LoadError (Except LoadError Container)} (ht : tag? ms = some tag)
    (h : containerOf? mode tag ms = some (kind,fields))
    (he : kind = .error e ∨ kind = .ok (.error e)) : Refuses mode (.object ms) e := by
  by_cases hg : tag = "heading"
  · subst hg
    cases h
    obtain he := he.resolve_left nofun
    exact refuses_of_headingDepth ht (map_eq_error.mp (Except.ok.inj he))
  obtain ⟨hk,hf⟩ := containerOf?_outcome hg h
  have hl : e = .longNumber := by
    rcases he with rfl | rfl <;> simpa using hk
  subst hl
  refine .longText ?_
  by_contra hn
  obtain ⟨k,rfl⟩ := hf.mpr (ht ▸ not_hasLongText_iff.mp hn)
  rcases he with he | he <;> cases he

/-- The text of a node that is of no known kind. -/
theorem refuses_of_value (ht : textKeys (tag? ms) = ["value"])
    (h : textField? ms "value" = .error e) : Refuses mode (.object ms) e := by
  obtain ⟨rfl,hl⟩ := textField?_eq_error.mp h
  exact .longText ⟨"value",by rw [ht]; exact List.mem_singleton_self _,hl⟩

/-- A value is refused for what it is, or because some value inside of it cannot be read. -/
theorem refused_of_load {v : Value} (h : load mode v = .error e) : Refuses mode v e ∨
    ∃ u ∈ v.parts, ∃ w, Inside w u ∧ load mode w = .error e := by
  rw [load.eq_def] at h
  split at h
  · next ms =>
    split at h
    · next ht =>
      cases mode with
      | strict =>
        cases h
        exact .inl (.noType rfl ht)
      | lenient =>
        rcases bind_eq_error.mp h with h | ⟨value,-,h⟩
        · exact .inl (refuses_of_value (by rw [ht,textKeys]) h)
        rcases bind_eq_error.mp h with h | ⟨cs,-,h⟩
        · exact refused_of_row h
        · cases h
    · next tag ht =>
      split at h
      · next hl =>
        rw [map_eq_error.mp h] at hl
        exact .inl (refuses_of_leafOf? ht hl)
      · split_ifs at h with hb
        · obtain rfl : tag = "table" := by simpa using hb
          -- the first part that cannot be read settles the reason
          rcases bind_eq_error.mp h with h | ⟨header,-,h⟩
          · exact .inr (refused_of_header h)
          rcases bind_eq_error.mp h with h | ⟨body,-,h⟩
          · exact refused_of_row h
          rcases bind_eq_error.mp h with h | ⟨rows,-,h⟩
          · exact refused_of_row h
          rcases bind_eq_error.mp h with h | ⟨align,-,h⟩
          · exact .inl (refuses_of_alignment ht h)
          · cases h
        · split at h
          · next hk =>
            rcases bind_eq_error.mp h with h | ⟨kind,ho,h⟩
            · exact .inl (refuses_of_containerOf? ht hk (.inl h))
            rcases bind_eq_error.mp h with h | ⟨cs,-,h⟩
            · exact refused_of_row h
            rcases bind_eq_error.mp h with h | ⟨kind,-,h⟩
            · exact .inl (refuses_of_containerOf? ht hk (.inr (ho.trans (congrArg _ h))))
            · cases h
          · next hk =>
            have hn := notMem_knownTags ‹_› (by simpa using hb) hk
            rcases bind_eq_error.mp h with h | ⟨value,-,h⟩
            · exact .inl (refuses_of_value (by rw [ht,textKeys_of_notMem hn]) h)
            rcases bind_eq_error.mp h with h | ⟨cs,-,h⟩
            · exact refused_of_row h
            · cases h
  · next hv =>
    cases mode with
    | strict =>
      cases h
      exact .inl (.notObject rfl hv)
    | lenient => cases h

end

/-- A reading that fails refuses a value inside, and says why. -/
theorem exists_refuses {mode : LoadMode} {v : Value} {e : LoadError}
    (h : load mode v = .error e) : ∃ w, Inside w v ∧ Refuses mode w e := by
  induction v using inside_induction with
  | h v ih =>
    rcases refused_of_load h with h | ⟨u,hu,w,hw,he⟩
    · exact ⟨v,.refl v,h⟩
    · obtain ⟨x,hx,hr⟩ := ih u hu w hw he
      exact ⟨x,(hx.trans hw).trans (.part (.refl u) hu),hr⟩

end ChatMarkup.Node
