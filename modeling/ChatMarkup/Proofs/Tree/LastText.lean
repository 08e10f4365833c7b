import ChatMarkup.Proofs.Tree.Places
import Mathlib.Data.List.Lex

/-!
# The last text with an ending

Places are in reading order when they are ordered as words are in a dictionary: a node comes before
what stands below it, and what stands below a child before what stands below the next. The search
for a text with a given ending goes through the children from the last to the first, and what it
finds is the last such text in this order. Cutting the text there takes its ending away, and nothing
else in the tree changes.
-/
namespace ChatMarkup.Node
open Text
variable {ending : List Char} {n m c : Node} {k : ℕ} {path : List ℕ}

def EndsAt (ending : List Char) (n : Node) (path : List ℕ) : Prop :=
  ∃ value md, n.nodeAt? path = some (.leaf (.text value) md) ∧ ending <:+ value.toList

/-- No text with the given ending comes after the one at a place. -/
structure IsLastText (ending : List Char) (n : Node) (path : List ℕ) : Prop where
  ends : EndsAt ending n path
  last : ∀ place, EndsAt ending n place → ¬List.Lex (· < ·) path place

theorem IsLastText.unique {path' : List ℕ} (h : IsLastText ending n path)
    (h' : IsLastText ending n path') : path = path' :=
  Std.Trichotomous.trichotomous path path' (h.last path' h'.ends) (h'.last path h.ends)

theorem isTextEndingIn_eq_true : n.isTextEndingIn ending = true ↔
    ∃ value md, n = .leaf (.text value) md ∧ ending <:+ value.toList := by
  unfold isTextEndingIn
  split
  · simp [endsWith]
  · next hn =>
    simp only [Bool.false_eq_true,false_iff]
    rintro ⟨value,md,rfl,-⟩
    exact hn value md rfl

theorem endsAt_nil : EndsAt ending n [] ↔ n.isTextEndingIn ending = true := by
  simp only [EndsAt,nodeAt?,Option.some.injEq,isTextEndingIn_eq_true]

theorem endsAt_cons : EndsAt ending n (k :: path) ↔
    ∃ c, n.children[k]? = some c ∧ EndsAt ending c path := by
  constructor
  · rintro ⟨value,md,h,he⟩
    obtain ⟨c,hc,h⟩ := nodeAt?_cons_eq_some h
    exact ⟨c,hc,value,md,h,he⟩
  · rintro ⟨c,hc,value,md,h,he⟩
    exact ⟨value,md,(nodeAt?_cons hc path).trans h,he⟩

/-! ## The search -/

theorem not_endsAt_of_lastTextPath? (h : n.lastTextPath? ending = none) (place : List ℕ) :
    ¬EndsAt ending n place := by
  induction place generalizing n with
  | nil =>
    rw [endsAt_nil]
    intro hn
    rw [lastTextPath?_eq,if_pos hn] at h
    cases h
  | cons k place ih =>
    rw [endsAt_cons]
    rintro ⟨c,hc,he⟩
    rw [lastTextPath?_eq] at h
    split_ifs at h
    exact ih (lastTextPathFrom?_eq_none.mp h c (List.mem_of_getElem? hc)) he

theorem isLastText_nil (h : n.isTextEndingIn ending = true) : IsLastText ending n [] := by
  refine ⟨endsAt_nil.mpr h,fun place hp => ?_⟩
  obtain ⟨value,md,rfl,-⟩ := isTextEndingIn_eq_true.mp h
  cases place with
  | nil => exact List.not_lex_nil
  | cons j place =>
    obtain ⟨d,hd,-⟩ := endsAt_cons.mp hp
    cases hd

/-- The last text of a child is the last of all if there are none in the children after it. -/
theorem isLastText_cons (hc : n.children[k]? = some c) (h : IsLastText ending c path)
    (ha : ∀ d ∈ n.children.drop (k + 1), ∀ place, ¬EndsAt ending d place) :
    IsLastText ending n (k :: path) := by
  refine ⟨endsAt_cons.mpr ⟨c,hc,h.ends⟩,fun place hp => ?_⟩
  cases place with
  | nil => exact List.not_lex_nil
  | cons j place =>
    obtain ⟨d,hd,he⟩ := endsAt_cons.mp hp
    intro hlt
    cases hlt with
    | cons hlt =>
      obtain rfl := Option.some.inj (hc.symm.trans hd)
      exact h.last place he hlt
    | rel hj =>
      -- The text is below another child, and so below one that comes later.
      have hm : d ∈ n.children.drop (k + 1) := by
        refine List.mem_of_getElem? (i := j - (k + 1)) ?_
        rw [List.getElem?_drop,Nat.add_sub_cancel' hj,hd]
      exact ha d hm place he

theorem isLastText_of_lastTextPath? (h : n.lastTextPath? ending = some path) :
    IsLastText ending n path := by
  induction path generalizing n with
  | nil =>
    rw [lastTextPath?_eq] at h
    split_ifs at h with hn
    · exact isLastText_nil hn
    · obtain ⟨_,_,_,hp,-⟩ := of_lastTextPathFrom? h
      cases hp
  | cons i rest ih =>
    rw [lastTextPath?_eq] at h
    split_ifs at h with hn
    · cases h
    · obtain ⟨k,c,_,hp,hc,hr,ha⟩ := of_lastTextPathFrom? h
      rw [Nat.zero_add] at hp
      obtain ⟨rfl,rfl⟩ := List.cons.inj hp
      exact isLastText_cons hc (ih hr) fun d hd => not_endsAt_of_lastTextPath? (ha d hd)

theorem lastTextPath?_eq_none_iff :
    n.lastTextPath? ending = none ↔ ∀ place, ¬EndsAt ending n place := by
  refine ⟨not_endsAt_of_lastTextPath?,fun h => ?_⟩
  cases hp : n.lastTextPath? ending with
  | none => rfl
  | some path => exact absurd (isLastText_of_lastTextPath? hp).ends (h path)

theorem lastTextPath?_eq_some_iff :
    n.lastTextPath? ending = some path ↔ IsLastText ending n path := by
  refine ⟨isLastText_of_lastTextPath?,fun h => ?_⟩
  cases hp : n.lastTextPath? ending with
  | none => exact absurd h.ends (not_endsAt_of_lastTextPath? hp path)
  | some path' => rw [h.unique (isLastText_of_lastTextPath? hp)]

/-! ## The cut -/

/-- The second tree is the first without the ending of the text at one place. -/
structure LosesEnding (ending : List Char) (path : List ℕ) (n m : Node) : Prop where
  text : ∃ kept md, n.nodeAt? path = some (.leaf (.text (String.ofList (kept ++ ending))) md) ∧
    m.nodeAt? path = some (.leaf (.text (String.ofList kept)) md)
  elsewhere : AgreeExcept path n m

theorem LosesEnding.unique {m' : Node} (h : LosesEnding ending path n m)
    (h' : LosesEnding ending path n m') : m = m' := by
  obtain ⟨kept,md,hn,hm⟩ := h.text
  obtain ⟨kept',md',hn',hm'⟩ := h'.text
  have he := Option.some.inj (hn.symm.trans hn')
  simp only [leaf.injEq,Leaf.text.injEq,String.ofList_inj,List.append_cancel_right_eq] at he
  obtain ⟨rfl,rfl⟩ := he
  refine eq_of_labelAt?_eq fun place => ?_
  by_cases hp : place = path
  · rw [hp,labelAt?,labelAt?,hm,hm']
  · exact (h.elsewhere place hp).symm.trans (h'.elsewhere place hp)

theorem LosesEnding.rawText (h : LosesEnding ending path n m) :
    ∃ kept, n.rawText = n.textBefore path ++ (kept ++ ending) ++ n.textAfter path ∧
      m.rawText = n.textBefore path ++ kept ++ n.textAfter path := by
  obtain ⟨kept,md,hn,hm⟩ := h.text
  obtain ⟨hb,ha⟩ := h.elsewhere.text_eq hn hm
  refine ⟨kept,?_,?_⟩
  · rw [rawText_at hn]
    simp [Node.rawText,leafText]
  · rw [rawText_at hm,hb,ha]
    simp [Node.rawText,leafText]

theorem cutEnd_append (kept ending : List Char) : cutEnd ending.length (kept ++ ending) = kept := by
  unfold cutEnd
  simp

theorem losesEnding_cutTextAt (h : EndsAt ending n path)
    (hm : n.cutTextAt (path.map Int.ofNat) ending.length = .ok m) :
    LosesEnding ending path n m := by
  induction path generalizing n m with
  | nil =>
    obtain ⟨value,md,hv,kept,he⟩ := h
    obtain rfl := Option.some.inj hv
    rw [List.map_nil,cutTextAt.eq_def] at hm
    dsimp only at hm
    rw [← he,cutEnd_append] at hm
    obtain rfl := Except.ok.inj hm
    refine ⟨⟨kept,md,?_,rfl⟩,fun place hp => ?_⟩
    · rw [nodeAt?,he,String.ofList_toList]
    · cases place with
      | nil => exact absurd rfl hp
      | cons j place => rfl
  | cons k rest ih =>
    obtain ⟨c,hc,he⟩ := endsAt_cons.mp h
    rw [List.map_cons,Int.ofNat_eq_natCast,cutTextAt_cons,hc] at hm
    obtain ⟨d,hd,rfl⟩ := map_eq_ok.mp hm
    obtain ⟨⟨kept,md,hn,hm'⟩,ha⟩ := ih he hd
    have hs : (n.withChildren (n.children.set k d)).children[k]? = some d := by
      rw [children_withChildren_set hc,List.getElem?_set_self (List.getElem?_eq_some_iff.mp hc).1]
    exact ⟨⟨kept,md,(nodeAt?_cons hc rest).trans hn,(nodeAt?_cons hs rest).trans hm'⟩,
      agreeExcept_withChildren_set hc ha⟩

/-- The search finds the last text with the ending, wherever there is one. Cutting there succeeds,
and takes the ending away from this text alone. -/
theorem lastText_found_and_cut (ending : List Char) (n : Node) :
    (n.lastTextPath? ending = none ↔ ∀ place, ¬EndsAt ending n place) ∧
    (∀ path, n.lastTextPath? ending = some path ↔ IsLastText ending n path) ∧
    ∀ path, n.lastTextPath? ending = some path →
      ∃ m, n.cutTextAt (path.map Int.ofNat) ending.length = .ok m ∧
        LosesEnding ending path n m ∧
        ∃ kept, n.rawText = n.textBefore path ++ (kept ++ ending) ++ n.textAfter path ∧
          m.rawText = n.textBefore path ++ kept ++ n.textAfter path := by
  refine ⟨lastTextPath?_eq_none_iff,fun path => lastTextPath?_eq_some_iff,fun path h => ?_⟩
  obtain ⟨m,hm⟩ := exists_cutTextAt h ending.length
  have hl := losesEnding_cutTextAt (isLastText_of_lastTextPath? h).ends hm
  exact ⟨m,hm,hl,hl.rawText⟩

/-- A paragraph, and a table whose header ends in code. The body of the table does not show. -/
def coveredQuote : Node :=
  .container .blockQuote
    [.container .paragraph [text "first||"] [],
      .table [text "covered||"]
        (some (.container .tableRow
          [.container .tableCell [text "last||",.leaf (.code "code") []] []] []))
        [.container .tableRow [] []] [] []] []

theorem coveredQuote_found_and_cut :
    coveredQuote.lastTextPath? "||".toList = some [1,0,0,0] ∧
    ∃ m, coveredQuote.cutTextAt [1,0,0,0] 2 = .ok m ∧
      LosesEnding "||".toList [1,0,0,0] coveredQuote m ∧
      ∃ kept, coveredQuote.rawText =
          coveredQuote.textBefore [1,0,0,0] ++ (kept ++ "||".toList) ++
            coveredQuote.textAfter [1,0,0,0] ∧
        m.rawText = coveredQuote.textBefore [1,0,0,0] ++ kept ++
          coveredQuote.textAfter [1,0,0,0] := by
  have hp : coveredQuote.lastTextPath? "||".toList = some [1,0,0,0] := by rfl
  exact ⟨hp,(lastText_found_and_cut "||".toList coveredQuote).2.2 [1,0,0,0] hp⟩

end ChatMarkup.Node
