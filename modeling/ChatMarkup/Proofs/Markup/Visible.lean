import ChatMarkup.Proofs.Markup.WellFormed

/-!
# What a markup shows

A markup with whole character references shows something if and only if one of its pieces does, as
long as the boundaries between the pieces are clean: no reference is blank in the whole that is not
blank in its piece. Tags show nothing, neither those that are opened again before a piece nor those
that are closed behind it. So splitting such a markup gives no message at all if and only if there
is nothing to see in it.
-/
namespace ChatMarkup.Markup
open Text

/-! ## Blank references -/

theorem isReference_of_mem_blankReferences : ∀ t ∈ blankReferences, IsReference t := by
  simp only [blankReferences,List.forall_mem_cons,List.not_mem_nil,false_implies,implies_true,
    and_true]
  exact ⟨⟨[],"nbsp".toList,.inl rfl,by decide,List.all_eq_true.mp (by decide),rfl⟩,
    ⟨['#'],"160".toList,.inr rfl,by decide,List.all_eq_true.mp (by decide),rfl⟩,
    ⟨['#'],"xa0".toList,.inr rfl,by decide,List.all_eq_true.mp (by decide),rfl⟩,
    ⟨['#'],"xA0".toList,.inr rfl,by decide,List.all_eq_true.mp (by decide),rfl⟩,
    ⟨['#'],"32".toList,.inr rfl,by decide,List.all_eq_true.mp (by decide),rfl⟩,
    ⟨['#'],"x20".toList,.inr rfl,by decide,List.all_eq_true.mp (by decide),rfl⟩⟩

section
variable {t x y r : List Char}

/-- No two references begin in the same place. -/
theorem IsReference.eq_of_prefix {u : List Char} (ht : IsReference t) (hu : IsReference u)
    (h : u <+: t ++ r) : u = t := by
  obtain ⟨w,hw⟩ := h
  have hl := referenceLength?_of_reference ht r
  rw [← hw,referenceLength?_of_reference hu w] at hl
  exact (List.append_inj hw (Option.some.inj hl)).1

theorem blankReferenceLength?_reference (ht : IsReference t) (r : List Char) :
    blankReferenceLength? (t ++ r) = if t ∈ blankReferences then some t.length else none := by
  unfold blankReferenceLength?
  split_ifs with hm
  · cases hf : blankReferences.find? (·.isPrefixOf (t ++ r)) with
    | none =>
      rw [List.find?_eq_none] at hf
      exact absurd (List.isPrefixOf_iff_prefix.mpr (List.prefix_append t r)) (hf t hm)
    | some u =>
      have hu := isReference_of_mem_blankReferences u (List.mem_of_find?_eq_some hf)
      have hp : u <+: t ++ r := by simpa using List.find?_some hf
      rw [ht.eq_of_prefix hu hp,Option.map_some]
  · rw [Option.map_eq_none_iff,List.find?_eq_none]
    intro u hu hp
    obtain rfl := ht.eq_of_prefix (isReference_of_mem_blankReferences u hu)
      (List.isPrefixOf_iff_prefix.mp hp)
    exact hm hu

theorem blankReferenceLength?_of_ne {c : Char} (hc : c ≠ '&') (s : List Char) :
    blankReferenceLength? (c :: s) = none := by
  unfold blankReferenceLength?
  rw [Option.map_eq_none_iff,List.find?_eq_none]
  intro t ht hp
  obtain ⟨sign,name,-,-,-,rfl⟩ := isReference_of_mem_blankReferences t ht
  have hp := List.isPrefixOf_iff_prefix.mp hp
  exact hc (List.cons_prefix_cons.mp hp).1.symm

theorem dropBlankReferencesFrom_skip (x y : List Char) :
    dropBlankReferencesFrom x.length (x ++ y) = dropBlankReferences y := by
  induction x with
  | nil => rfl
  | cons c x ih =>
    rw [List.length_cons,List.cons_append,dropBlankReferencesFrom]
    exact ih

/-- Text without ampersands holds no references. -/
theorem dropBlankReferences_plain (h : '&' ∉ x) (y : List Char) :
    dropBlankReferences (x ++ y) = x ++ dropBlankReferences y := by
  induction x with
  | nil => rfl
  | cons c x ih =>
    rw [List.mem_cons,not_or] at h
    rw [List.cons_append,dropBlankReferences,dropBlankReferencesFrom,
      blankReferenceLength?_of_ne (Ne.symm h.1)]
    exact congrArg (c :: ·) (ih h.2)

/-- A reference is dropped or stays, whatever follows it. -/
theorem dropBlankReferences_reference (ht : IsReference t) (r : List Char) :
    dropBlankReferences (t ++ r) =
      (if t ∈ blankReferences then [] else t) ++ dropBlankReferences r := by
  have hb := blankReferenceLength?_reference ht r
  have hn := ht.ampersand_notMem_tail
  obtain ⟨sign,name,-,-,-,rfl⟩ := ht
  rw [List.cons_append] at hb ⊢
  rw [dropBlankReferences,dropBlankReferencesFrom,hb]
  split_ifs
  · exact dropBlankReferencesFrom_skip _ r
  · exact congrArg ('&' :: ·) (dropBlankReferences_plain hn r)

/-- Where references are whole, those of two texts are dropped from each by itself. -/
theorem dropBlankReferences_append (h : EachAmpersand IsReference x) (y : List Char) :
    dropBlankReferences (x ++ y) = dropBlankReferences x ++ dropBlankReferences y := by
  induction hn : x.length using Nat.strong_induction_on generalizing x with
  | _ n ih =>
    cases x with
    | nil => rfl
    | cons c x =>
      -- a reference is passed over whole, so the induction is on the length
      by_cases hc : c = '&'
      · subst hc
        obtain ⟨t,r,he,ht⟩ := h x (List.suffix_refl _)
        rw [he] at h hn ⊢
        obtain ⟨sign,name,-,-,-,hs⟩ := id ht
        have hl : r.length < n := by
          rw [← hn,hs]
          simp
          omega
        rw [List.append_assoc,dropBlankReferences_reference ht,dropBlankReferences_reference ht,
          ih _ hl h.right rfl,List.append_assoc]
      · have hd (s : List Char) : dropBlankReferences (c :: s) = c :: dropBlankReferences s :=
          dropBlankReferences_plain (x := [c]) (by simpa using Ne.symm hc) s
        rw [List.cons_append,hd,hd,ih x.length (by simp [← hn]) (h.right (x := [c])) rfl,
          List.cons_append]

end

/-! ## Markups and their pieces -/

/-- References stay whole when the tags around them are taken away. -/
theorem EachAmpersand.stripTags {s : List Char} (h : EachAmpersand IsReference s) :
    EachAmpersand IsReference (stripTags s) := by
  induction s using scan_induction with
  | nil => exact .of_notMem (by simp [Markup.stripTags,tokens])
  | char c s hc ih =>
    rw [(scan_char hc).2]
    intro rest hr
    rcases List.suffix_cons_iff.mp hr with he | hr
    · obtain ⟨rfl,rfl⟩ := List.cons.inj he
      obtain ⟨t,r,hs,ht⟩ := h s (List.suffix_refl _)
      refine ⟨t,Markup.stripTags r,?_,ht⟩
      rw [← (scan_char hc).2,hs,(scan_unopened ht.opener_notMem r).2]
    · exact ih (h.right (x := [c])) rest hr
  | tag t s ht ih =>
    rw [stripTags_tag ht]
    exact ih h.right

section
variable {x y : List Char}

/-- On either side of a clean boundary, a markup shows what it shows there by itself. -/
theorem hasVisibleContent_append (hx : EachAmpersand IsReference x) (hc : Clean x y) :
    hasVisibleContent (x ++ y) = (hasVisibleContent x || hasVisibleContent y) := by
  unfold hasVisibleContent
  rw [stripTags_append hc.tag,dropBlankReferences_append hx.stripTags,List.all_append,
    Bool.not_and]

theorem hasVisibleContent_nil : hasVisibleContent [] = false := by
  simp [hasVisibleContent,stripTags,tokens,dropBlankReferences,dropBlankReferencesFrom]

theorem stripTags_openingTags {ts : List OpenTag} (h : ∀ t ∈ ts, t.Proper) (y : List Char) :
    stripTags (openingTags ts ++ y) = stripTags y := by
  induction ts with
  | nil => rfl
  | cons t ts ih =>
    have hs := ih fun u hu => h u (List.mem_cons_of_mem t hu)
    rw [openingTags,List.flatMap_cons,List.append_assoc,stripTags_tag (h t (by simp)).token,
      ← openingTags,hs]

theorem stripTags_closing {ts : List OpenTag} (h : ∀ t ∈ ts, t.Proper) :
    stripTags (ts.flatMap closingTag) = [] := by
  induction ts with
  | nil => simp [stripTags,tokens]
  | cons t ts ih =>
    have ht := isTagToken_closingTag (h t (by simp)).name
    rw [List.flatMap_cons,stripTags_tag ht,ih fun u hu => h u (List.mem_cons_of_mem t hu)]

/-- A message shows what its piece shows. -/
theorem hasVisibleContent_message (before piece : List Char) :
    hasVisibleContent (balance (openingTags (openTags before) ++ piece)) =
      hasVisibleContent piece := by
  have hp (s : List Char) : ∀ t ∈ (openTags s).reverse, t.Proper := fun t ht =>
    openTags_proper s t (List.mem_reverse.mp ht)
  unfold hasVisibleContent balance
  rw [stripTags_append (clean_closingTags _ _).tag,closingTags_eq,stripTags_closing (hp _),
    List.append_nil,stripTags_openingTags (openTags_proper before)]

theorem filter_messages_eq_nil_iff {before : List Char} {pieces : List (List Char)} :
    (messages before pieces).filter hasVisibleContent = [] ↔
      ∀ piece ∈ pieces, hasVisibleContent piece = false := by
  induction pieces generalizing before with
  | nil => simp [messages]
  | cons piece pieces ih =>
    rw [messages,List.forall_mem_cons,← @ih (before ++ piece)]
    cases hv : hasVisibleContent piece <;> simp [hasVisibleContent_message,hv]

/-- A row of pieces with clean boundaries shows something if and only if some piece does. -/
theorem hasVisibleContent_flatten {pieces : List (List Char)}
    (h : EachAmpersand IsReference pieces.flatten)
    (hc : ∀ xs ys, pieces = xs ++ ys → Clean xs.flatten ys.flatten) :
    hasVisibleContent pieces.flatten = false ↔
      ∀ piece ∈ pieces, hasVisibleContent piece = false := by
  induction pieces with
  | nil => simp [hasVisibleContent_nil]
  | cons piece pieces ih =>
    have hp : Clean piece pieces.flatten := by simpa using hc [piece] pieces rfl
    have hs := ih (List.flatten_cons ▸ h).right fun xs ys he => by
      subst he
      exact (hc (piece :: xs) ys rfl).mono (List.suffix_append _ _) (List.prefix_refl _)
    rw [List.flatten_cons] at h ⊢
    rw [hasVisibleContent_append (h.left hp.reference) hp,Bool.or_eq_false_iff,hs,
      List.forall_mem_cons]

end

/-- A well-formed markup is split into no message at all if and only if it shows nothing. -/
theorem split_eq_nil_iff {s : List Char} (h : WellFormed s) (budget : ℕ) :
    split budget s = [] ↔ hasVisibleContent s = false := by
  have hr := ((wellFormed_iff s).mp h).references
  rw [← flatten_pieces budget s] at hr
  rw [split_eq_messages,filter_messages_eq_nil_iff,
    ← hasVisibleContent_flatten hr fun xs ys hp => clean_pieces budget s hp,flatten_pieces]

end ChatMarkup.Markup
