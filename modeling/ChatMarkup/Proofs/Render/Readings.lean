import ChatMarkup.Proofs.Render.Plain
import ChatMarkup.Proofs.Tree.Checking

/-!
# Both readings of a tree

Whatever the strict reading accepts, the lenient one reads as the same tree, but for one thing. The
strict reading keeps every number that is a rank, and the lenient one keeps whole numbers only: other
headings get the first rank. Nobody sees the difference. A checker finds the same in both trees, and
documents of both are rendered alike.
-/
namespace ChatMarkup.Node
open Value

/-! ## Whole ranks -/

/-- A heading keeps a rank that is a whole number, and gets the first rank in place of others. -/
def wholeRank : Container → Container
  | .heading (.real _) => .heading (.count (.number 1))
  | kind => kind

mutual

/-- The tree with the first rank in place of all that are no whole numbers. -/
def wholeRanks : Node → Node
  | .leaf kind m => .leaf kind m
  | .container kind cs m => .container (wholeRank kind) (wholeRanksAll cs) m
  | .table body header rows align m =>
    .table (wholeRanksAll body) (wholeRanksOption header) (wholeRanksAll rows) align m
  | .unknown name value cs m => .unknown name value (wholeRanksAll cs) m

def wholeRanksAll : List Node → List Node
  | [] => []
  | n :: ns => wholeRanks n :: wholeRanksAll ns

def wholeRanksOption : Option Node → Option Node
  | none => none
  | some n => some (wholeRanks n)

end

theorem wholeRanksAll_eq_map (ns : List Node) : wholeRanksAll ns = ns.map wholeRanks := by
  induction ns with
  | nil => rw [wholeRanksAll,List.map_nil]
  | cons n ns ih => rw [wholeRanksAll,List.map_cons,ih]

theorem wholeRanksOption_eq_map (n : Option Node) : wholeRanksOption n = n.map wholeRanks := by
  cases n <;> rw [wholeRanksOption] <;> rfl

section
variable (m : List (String × Value)) (cs : List Node)

theorem wholeRanks_container (kind : Container) :
    (Node.container kind cs m).wholeRanks = .container (wholeRank kind) (cs.map wholeRanks) m := by
  rw [wholeRanks,wholeRanksAll_eq_map]

theorem wholeRanks_table (header : Option Node) (rows : List Node) (align : List Value) :
    (Node.table cs header rows align m).wholeRanks =
      .table (cs.map wholeRanks) (header.map wholeRanks) (rows.map wholeRanks) align m := by
  rw [wholeRanks,wholeRanksAll_eq_map,wholeRanksAll_eq_map,wholeRanksOption_eq_map]

theorem wholeRanks_unknown (name : String) (value : Option String) :
    (Node.unknown name value cs m).wholeRanks = .unknown name value (cs.map wholeRanks) m := by
  rw [wholeRanks,wholeRanksAll_eq_map]

end

theorem children_wholeRanks (n : Node) : n.wholeRanks.children = n.children.map wholeRanks := by
  cases n with
  | leaf => rw [wholeRanks]; rfl
  | container => rw [wholeRanks_container]; rfl
  | table body header rows align m =>
    rw [wholeRanks_table]
    cases header with
    | none => cases rows <;> rfl
    | some h => rfl
  | unknown => rw [wholeRanks_unknown]; rfl

theorem stripped_wholeRanks (n : Node) : n.wholeRanks.stripped = n.stripped := by
  cases n with
  | leaf => rw [wholeRanks]
  | container kind cs m =>
    rw [wholeRanks_container]
    unfold wholeRank
    split <;> rfl
  | table => rw [wholeRanks_table]; rfl
  | unknown => rw [wholeRanks_unknown]; rfl

/-- Readers cannot tell ranks apart. -/
theorem plain_wholeRanks (n : Node) : n.wholeRanks.plain = n.plain :=
  plain_of_map stripped_wholeRanks children_wholeRanks n

def HasWholeRank : Node → Prop
  | .container (.heading (.real _)) _ _ => False
  | _ => True

theorem map_eq_self_iff {α : Type} {f : α → α} {l : List α} :
    l.map f = l ↔ ∀ x ∈ l, f x = x := by
  conv_lhs => rw [← l.map_id]
  rw [List.map_map]
  exact List.map_inj_left

/-- A node stays as it is if its rank does and all the nodes right below do. -/
theorem wholeRanks_eq_self_iff_parts (n : Node) :
    n.wholeRanks = n ↔ n.HasWholeRank ∧ ∀ part ∈ n.parts, part.wholeRanks = part := by
  cases n with
  | leaf => rw [wholeRanks]; simp [HasWholeRank,parts]
  | container kind cs m =>
    have hk : wholeRank kind = kind ↔ (Node.container kind cs m).HasWholeRank := by
      cases kind with
      | heading depth => cases depth <;> simp [wholeRank,HasWholeRank]
      | _ => simp [wholeRank,HasWholeRank]
    rw [wholeRanks_container,container.injEq,map_eq_self_iff,hk]
    simp [parts]
  | table body header rows align m =>
    rw [wholeRanks_table,table.injEq,map_eq_self_iff,map_eq_self_iff]
    cases header <;> simp [HasWholeRank,parts,or_imp,forall_and]
  | unknown =>
    rw [wholeRanks_unknown,unknown.injEq,map_eq_self_iff]
    simp [HasWholeRank,parts]

/-- A tree stays as it is if and only if all its ranks are whole numbers. -/
theorem wholeRanks_eq_self_iff {n : Node} : n.wholeRanks = n ↔ n.Everywhere HasWholeRank := by
  induction n using parts_induction with
  | h n ih =>
    rw [wholeRanks_eq_self_iff_parts]
    constructor
    · rintro ⟨hn,hp⟩
      exact .intro hn fun part hm => (ih part hm).mp (hp part hm)
    · rintro ⟨hn,hp⟩
      exact ⟨hn,fun part hm => (ih part hm).mpr (hp part hm)⟩

/-! ## What the lenient reading makes of it -/

section
variable {ms : Members}

theorem headingDepth_of_strict {depth : Depth} (h : headingDepth .strict ms = .ok depth) :
    ∃ d, headingDepth .lenient ms = .ok d ∧ Container.heading d = wholeRank (.heading depth) := by
  unfold headingDepth at h ⊢
  dsimp only at h ⊢
  generalize (ms.get? "depth").getD (.int 1) = given at h ⊢
  split at h
  · cases h
  · next d hd =>
    split_ifs at h with hr
    cases h
    cases given with
    | float x =>
      cases hd
      exact ⟨_,rfl,rfl⟩
    | int k =>
      cases hd
      exact ⟨_,if_pos hr,rfl⟩
    | bool b =>
      cases hd
      exact ⟨_,if_pos hr,rfl⟩
    | _ => cases hd

theorem containerOf?_of_strict {tag : String} {kind : Container} {fields : List String}
    (h : containerOf? .strict tag ms = some (.ok (.ok kind),fields)) :
    containerOf? .lenient tag ms = some (.ok (.ok (wholeRank kind)),fields) := by
  unfold containerOf? at h ⊢
  split at h
  case h_2 =>
    simp only [Option.some.injEq,Prod.mk.injEq,Except.ok.injEq,map_eq_ok] at h
    obtain ⟨⟨depth,hd,rfl⟩,rfl⟩ := h
    obtain ⟨d,hl,he⟩ := headingDepth_of_strict hd
    rw [hl,← he]
    rfl
  case h_12 =>
    simp only [Option.some.injEq,Prod.mk.injEq,map_eq_ok] at h
    obtain ⟨⟨url,hu,title,ht,rfl⟩,rfl⟩ := h
    rw [hu,Except.map,ht]
    rfl
  all_goals
    cases h
  all_goals rfl

theorem containerOf?_eq_none_of_strict {tag : String} (h : containerOf? .strict tag ms = none) :
    containerOf? .lenient tag ms = none := by
  unfold containerOf? at h ⊢
  split at h
  case h_13 => rfl
  all_goals cases h

/-- The values in an object that the strict reading accepts are read with whole ranks. -/
def ReadWhole (ms : Members) : Prop :=
  ∀ u ∈ (object ms).parts, ∀ w, Inside w u → ∀ n, load .strict w = .ok n →
    load .lenient w = .ok n.wholeRanks

theorem loadRow_of_strict (hw : ReadWhole ms) {key : String} {type : Value} {ns : List Node}
    (h : loadRow .strict key type ms = .ok ns) :
    loadRow .lenient key type ms = .ok (ns.map wholeRanks) := by
  rw [loadRow_eq] at h ⊢
  split at h
  · cases h
    rfl
  · cases h
    rfl
  · next items hk =>
    rw [loadItems_eq_mapM,mapM_eq_ok] at h ⊢
    rw [List.forall₂_map_right_iff]
    have hm := (List.forall₂_and_left items ns).mpr ⟨fun w (hw : w ∈ items) => hw,h⟩
    exact hm.imp fun w n ⟨hi,hn⟩ => hw _ (mem_parts_of_get? hk) w (inside_of_mem hi) n hn
  · cases h

theorem loadHeader_of_strict (hw : ReadWhole ms) {header : Option Node}
    (h : loadHeader .strict ms = .ok header) :
    loadHeader .lenient ms = .ok (header.map wholeRanks) := by
  rw [loadHeader_eq] at h ⊢
  split at h
  · next hs hk =>
    obtain ⟨n,hn,rfl⟩ := map_eq_ok.mp h
    exact map_eq_ok.mpr ⟨_,hw _ (mem_parts_of_get? hk) _ (.refl _) n hn,rfl⟩
  · next item more hk =>
    obtain ⟨n,hn,rfl⟩ := map_eq_ok.mp h
    exact map_eq_ok.mpr
      ⟨_,hw _ (mem_parts_of_get? hk) item (inside_of_mem List.mem_cons_self) n hn,rfl⟩
  · cases h
    rfl

/-- The lenient reading reads whatever the strict one accepts, with whole ranks. -/
theorem load_of_strict {v : Value} {n : Node} (h : load .strict v = .ok n) :
    load .lenient v = .ok n.wholeRanks := by
  induction v using inside_induction generalizing n with
  | h v ih =>
    rw [load.eq_def] at h ⊢
    cases v with
    | object ms =>
      -- a child stands in a list of the object, two steps inside of it and not one
      have hw : ReadWhole ms := fun u hu w hi n hn => ih u hu w hi hn
      dsimp only at h ⊢
      cases ht : tag? ms with
      | none =>
        rw [ht] at h
        cases h
      | some tag =>
        rw [ht] at h
        dsimp only at h ⊢
        cases hl : leafOf? tag ms with
        | some leaf =>
          rw [hl] at h
          obtain ⟨kind,hk,rfl⟩ := map_eq_ok.mp h
          dsimp only
          rw [hk,wholeRanks]
          rfl
        | none =>
          rw [hl] at h
          dsimp only at h ⊢
          split_ifs at h ⊢ with hb
          · obtain ⟨header,hh,h⟩ := bind_eq_ok.mp h
            obtain ⟨body,hc,h⟩ := bind_eq_ok.mp h
            obtain ⟨rows,hr,h⟩ := bind_eq_ok.mp h
            obtain ⟨align,ha,h⟩ := bind_eq_ok.mp h
            cases h
            rw [loadHeader_of_strict hw hh,loadRow_of_strict hw hc,loadRow_of_strict hw hr,ha,
              wholeRanks_table]
            rfl
          · split at h
            · next kind fields hk =>
              simp only [bind_eq_ok] at h
              obtain ⟨kind,rfl,cs,hr,kind,rfl,h⟩ := h
              cases h
              rw [containerOf?_of_strict hk,loadRow_of_strict hw hr,wholeRanks_container]
              rfl
            · next hk =>
              obtain ⟨value,hv,h⟩ := bind_eq_ok.mp h
              obtain ⟨cs,hr,h⟩ := bind_eq_ok.mp h
              cases h
              rw [containerOf?_eq_none_of_strict hk,hv,loadRow_of_strict hw hr,wholeRanks_unknown]
              rfl
    | _ => cases h

end

/-! ## Checks and documents -/

/-- A tree that was read is checked alike with whole ranks, by any checker and after any others. -/
theorem visit_wholeRanks {n : Node} (h : Loaded n) (hw : Loaded n.wholeRanks) (k : Checker) :
    n.wholeRanks.visit.run k = n.visit.run k := by
  rw [makes_visit h.ranked,makes_visit hw.ranked,← misplacements_plain,plain_wholeRanks,
    misplacements_plain]

/-- What the strict reading accepts, the lenient one reads as well. The trees are the same but for
the ranks of headings that are no whole numbers, checkers find the same in both, and documents of
both are rendered alike, or fail alike, whatever the options. -/
theorem lenient_extends_strict {v : Value} {n : Node} (h : load .strict v = .ok n) :
    load .lenient v = .ok n.wholeRanks ∧
    (n.wholeRanks = n ↔ n.Everywhere HasWholeRank) ∧
    (∀ k : Checker, n.wholeRanks.visit.run k = n.visit.run k) ∧
    ∀ o : RenderOptions, Render.documentMarkup o n.wholeRanks = Render.documentMarkup o n := by
  have hl := load_of_strict h
  exact ⟨hl,wholeRanks_eq_self_iff,visit_wholeRanks ⟨_,_,h⟩ ⟨_,_,hl⟩,
    fun o => Render.documentMarkup_congr (plain_wholeRanks n) o⟩

def twoAndHalf : Double := .finite false 5629499534213120 (-51)

/-- A quote around a heading of the rank two and a half, and an item outside of a list. -/
def halfRanked : Value :=
  .object [("type",.text "blockquote"),("children",.list [
    .object [("type",.text "heading"),("depth",.float twoAndHalf),("children",.list [
      .object [("type",.text "text"),("value",.text "a||")]])],
    .object [("type",.text "listItem"),("children",.null)]])]

theorem lenient_extends_strict_halfRanked :
    let quote (depth : Depth) : Node := .container .blockQuote [
      .container (.heading depth) [.text "a||"] [],.container (.listItem none) [] []] []
    load .strict halfRanked = .ok (quote (.real twoAndHalf)) ∧
      load .lenient halfRanked = .ok (quote (.count (.number 1))) ∧
      ∀ o, Render.documentMarkup o (quote (.count (.number 1))) =
        Render.documentMarkup o (quote (.real twoAndHalf)) := by
  intro quote
  have hs : load .strict halfRanked = .ok (quote (.real twoAndHalf)) := by rfl
  have hw := lenient_extends_strict hs
  have hq : (quote (.real twoAndHalf)).wholeRanks = quote (.count (.number 1)) := by rfl
  rw [hq] at hw
  exact ⟨hs,hw.1,hw.2.2.2⟩

end ChatMarkup.Node
