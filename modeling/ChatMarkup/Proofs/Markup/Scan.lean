import ChatMarkup.Proofs.Markup.Boundary
import Mathlib.Data.List.TakeWhile

/-!
# Reading a markup character by character

Tokens are found run by run. Here they are described one character at a time: a tag that begins
where the reader stands is passed over whole, and any other character merely stands there. This
gives an induction over markups. It also shows that the tags of a markup, and the text outside of
its tags, are those of its two parts wherever no tag lies over the boundary between them.
-/
namespace ChatMarkup.Markup
open Text

def tags (s : List Char) : List (List Char) := (tokens s).filter isTag

theorem tokens_cons (c : Char) (rest : List Char) :
    tokens (c :: rest) = (firstToken c rest).1 :: tokens (firstToken c rest).2 := by
  rw [tokens]

/-- The tokens cover the markup. -/
theorem flatten_tokens (s : List Char) : (tokens s).flatten = s := by
  fun_induction tokens s with
  | case1 => rfl
  | case2 c rest ih => rw [List.flatten_cons,ih,firstToken_append]

theorem ne_nil_of_mem_tokens {s t : List Char} (h : t ∈ tokens s) : t ≠ [] := by
  fun_induction tokens s with
  | case1 => simp at h
  | case2 c rest ih =>
    rcases List.mem_cons.mp h with rfl | h
    · exact List.length_pos_iff.mp (firstToken_length_pos c rest)
    · exact ih h

/-- A run of text ends here: the markup ends, or an opening bracket follows. -/
def Stops (s : List Char) : Prop := ∀ c ∈ s.head?, c = '<'

theorem stops_dropWhile (s : List Char) : Stops (s.dropWhile (· != '<')) := by
  intro c hc
  have h := List.head?_dropWhile_not (· != '<') s
  rw [hc] at h
  simpa using h

/-- An opening bracket that is not closed, with the text without brackets behind it. -/
def IsOpenToken (t : List Char) : Prop := ∃ body, (∀ c ∈ body, inTag c = true) ∧ t = '<' :: body

/-! ## First tokens -/

theorem IsTagToken.isTag {t : List Char} (h : IsTagToken t) : isTag t = true := by
  obtain ⟨body,-,rfl⟩ := h
  simp [Markup.isTag]

theorem IsTagToken.ne_nil {t : List Char} (h : IsTagToken t) : t ≠ [] := by
  obtain ⟨body,-,rfl⟩ := h
  simp

theorem firstToken_tag {body : List Char} (hb : ∀ c ∈ body, inTag c = true) (s : List Char) :
    firstToken '<' (body ++ '>' :: s) = ('<' :: (body ++ ['>']),s) := by
  have hd : (body ++ '>' :: s).dropWhile inTag = '>' :: s := by
    rw [List.dropWhile_append_of_pos hb]
    rfl
  have ht : (body ++ '>' :: s).takeWhile inTag = body := by
    rw [List.takeWhile_append_of_pos hb]
    simp [inTag]
  simp [firstToken,hd,ht]

theorem firstToken_loose {body r : List Char} (hb : ∀ c ∈ body, inTag c = true) (hr : Stops r) :
    firstToken '<' (body ++ r) = ('<' :: body,r) := by
  have hd : (body ++ r).dropWhile inTag = r := by
    rw [List.dropWhile_append_of_pos hb]
    cases r with
    | nil => rfl
    | cons c r => rw [hr c rfl]; rfl
  have ht : (body ++ r).takeWhile inTag = body := by
    rw [List.takeWhile_append_of_pos hb]
    cases r with
    | nil => simp
    | cons c r => rw [hr c rfl]; simp [inTag]
  unfold firstToken
  rw [hd,ht]
  cases r with
  | nil => rfl
  | cons c r => rw [hr c rfl]; rfl

theorem firstToken_text {c : Char} {w r : List Char} (hc : c ≠ '<') (hw : ∀ d ∈ w, d ≠ '<')
    (hr : Stops r) : firstToken c (w ++ r) = (c :: w,r) := by
  have hw' : ∀ d ∈ w, (d != '<') = true := fun d hd => by simpa using hw d hd
  have hd : (w ++ r).dropWhile (· != '<') = r := by
    rw [List.dropWhile_append_of_pos hw']
    cases r with
    | nil => rfl
    | cons c r => rw [hr c rfl]; rfl
  have ht : (w ++ r).takeWhile (· != '<') = w := by
    rw [List.takeWhile_append_of_pos hw']
    cases r with
    | nil => simp
    | cons c r => rw [hr c rfl]; simp
  simp [firstToken,hc,hd,ht]

theorem head?_firstToken (c : Char) (rest : List Char) : (firstToken c rest).1.head? = some c := by
  unfold firstToken
  split
  · split <;> rfl
  · rfl

/-- A first token is a tag, or it goes on to the end of a run of text. -/
theorem firstToken_kind (c : Char) (rest : List Char) :
    IsTagToken (firstToken c rest).1 ∨
      (IsOpenToken (firstToken c rest).1 ∨ '<' ∉ (firstToken c rest).1) ∧
        Stops (firstToken c rest).2 := by
  by_cases hc : c = '<'
  · subst hc
    have hb : ∀ d ∈ rest.takeWhile inTag, inTag d = true := fun d hd => List.mem_takeWhile_imp hd
    have hn := List.head?_dropWhile_not inTag rest
    rw [← List.takeWhile_append_dropWhile (p := inTag) (l := rest)]
    generalize rest.takeWhile inTag = body at hb
    generalize rest.dropWhile inTag = after at hn
    by_cases hr : Stops after
    · rw [firstToken_loose hb hr]
      exact .inr ⟨.inl ⟨body,hb,rfl⟩,hr⟩
    · -- what ends a run of characters other than brackets, and is no opening one, closes the tag
      cases after with
      | nil => simp [Stops] at hr
      | cons d after =>
        obtain rfl : d = '>' := by
          have ho : d ≠ '<' := fun e => hr (by simp [Stops,e])
          simpa [inTag,ho] using hn
        rw [firstToken_tag hb]
        exact .inl ⟨body,hb,rfl⟩
  · have hw : '<' ∉ c :: rest.takeWhile (· != '<') := by
      refine List.not_mem_cons_of_ne_of_not_mem (Ne.symm hc) fun h => ?_
      simpa using List.mem_takeWhile_imp h
    have hf : firstToken c rest = (c :: rest.takeWhile (· != '<'),rest.dropWhile (· != '<')) := by
      simp [firstToken,hc]
    rw [hf]
    exact .inr ⟨.inr hw,stops_dropWhile rest⟩

theorem firstToken_ends (c : Char) (rest : List Char) :
    IsTagToken (firstToken c rest).1 ∨ Stops (firstToken c rest).2 :=
  (firstToken_kind c rest).imp_right And.right

theorem isTag_loose {body : List Char} (hb : ∀ c ∈ body, inTag c = true) :
    isTag ('<' :: body) = false := by
  have h : body.getLast? ≠ some '>' := fun h =>
    absurd (hb '>' (List.mem_of_getLast? h)) (by decide)
  simpa [isTag] using h

theorem isTag_text {c : Char} {w : List Char} (hc : c ≠ '<') : isTag (c :: w) = false := by
  unfold isTag
  split
  · next h => exact absurd (List.cons.inj h).1 hc
  · rfl

/-! ## Tags and the text around them -/

theorem tags_tag {t : List Char} (ht : IsTagToken t) (s : List Char) :
    tags (t ++ s) = t :: tags s := by
  have hi := ht.isTag
  obtain ⟨body,hb,rfl⟩ := ht
  have h := firstToken_tag hb s
  have e : '<' :: (body ++ ['>']) ++ s = '<' :: (body ++ '>' :: s) := by simp
  rw [tags,e,tokens_cons,h,List.filter_cons_of_pos hi]
  rfl

theorem stripTags_tag {t : List Char} (ht : IsTagToken t) (s : List Char) :
    stripTags (t ++ s) = stripTags s := by
  have hi := ht.isTag
  obtain ⟨body,hb,rfl⟩ := ht
  have h := firstToken_tag hb s
  have e : '<' :: (body ++ ['>']) ++ s = '<' :: (body ++ '>' :: s) := by simp
  rw [stripTags,e,tokens_cons,h,List.filter_cons_of_neg (by simp [hi])]
  rfl

/-- A run of text holds no tags, and all of it stays when tags are taken away. -/
theorem scan_text {w r : List Char} (hw : ∀ d ∈ w, d ≠ '<') (hr : Stops r) :
    tags (w ++ r) = tags r ∧ stripTags (w ++ r) = w ++ stripTags r := by
  cases w with
  | nil => exact ⟨rfl,rfl⟩
  | cons c w =>
    have hc := hw c (by simp)
    have h := firstToken_text hc (fun d hd => hw d (List.mem_cons_of_mem c hd)) hr
    have hi : isTag (c :: w) = false := isTag_text hc
    constructor
    · rw [tags,List.cons_append,tokens_cons,h,List.filter_cons_of_neg (by simp [hi])]
      rfl
    · rw [stripTags,List.cons_append,tokens_cons,h,List.filter_cons_of_pos (by simp [hi])]
      rfl

/-- A character at which no tag begins merely stands there. -/
theorem scan_char {c : Char} {s : List Char} (h : ∀ t, IsTagToken t → ¬ t <+: c :: s) :
    tags (c :: s) = tags s ∧ stripTags (c :: s) = c :: stripTags s := by
  by_cases hc : c = '<'
  · -- An opening bracket without its closing one takes the run of text behind it into its token.
    subst hc
    have hb : ∀ d ∈ s.takeWhile inTag, inTag d = true := fun d hd => List.mem_takeWhile_imp hd
    have hw : ∀ d ∈ s.takeWhile inTag, d ≠ '<' := by
      rintro d hd rfl
      exact absurd (hb _ hd) (by decide)
    have hr : Stops (s.dropWhile inTag) := by
      intro d hd
      have hn := List.head?_dropWhile_not inTag s
      rw [hd] at hn
      obtain ⟨r,hs⟩ := List.head?_eq_some_iff.mp hd
      by_contra hne
      have hg : d = '>' := by simpa [inTag,hne] using hn
      refine h ('<' :: (s.takeWhile inTag ++ ['>'])) ⟨_,hb,rfl⟩ ⟨r,?_⟩
      rw [List.cons_append,List.append_assoc,List.singleton_append,← hg,← hs,
        List.takeWhile_append_dropWhile]
    have hs : s.takeWhile inTag ++ s.dropWhile inTag = s := List.takeWhile_append_dropWhile
    have hf := firstToken_loose hb hr
    have ht := scan_text hw hr
    rw [hs] at hf ht
    have hi := isTag_loose hb
    constructor
    · rw [ht.1,tags,tokens_cons,hf,List.filter_cons_of_neg (by simp [hi])]
      rfl
    · rw [ht.2,stripTags,tokens_cons,hf,List.filter_cons_of_pos (by simp [hi])]
      rfl
  · have hw : ∀ d ∈ s.takeWhile (· != '<'), d ≠ '<' := fun d hd => by
      simpa using List.mem_takeWhile_imp hd
    have hs : s.takeWhile (· != '<') ++ s.dropWhile (· != '<') = s :=
      List.takeWhile_append_dropWhile
    have h₁ := scan_text hw (stops_dropWhile s)
    have h₂ := scan_text (w := c :: s.takeWhile (· != '<'))
      (fun d hd => (List.mem_cons.mp hd).elim (fun e => e ▸ hc) (hw d)) (stops_dropWhile s)
    rw [List.cons_append,hs] at h₂
    rw [hs] at h₁
    exact ⟨h₂.1.trans h₁.1.symm,by rw [h₂.2,h₁.2,List.cons_append]⟩

/-- Induction over a markup: it ends, or begins with a character at which no tag begins, or with a
tag. -/
theorem scan_induction {P : List Char → Prop} (nil : P [])
    (char : ∀ c s, (∀ t, IsTagToken t → ¬ t <+: c :: s) → P s → P (c :: s))
    (tag : ∀ t s, IsTagToken t → P s → P (t ++ s)) (s : List Char) : P s := by
  induction hn : s.length using Nat.strong_induction_on generalizing s with
  | _ n ih =>
    cases s with
    | nil => exact nil
    | cons c s =>
      by_cases h : ∃ t, IsTagToken t ∧ t <+: c :: s
      · obtain ⟨t,ht,r,hr⟩ := h
        rw [← hr] at hn ⊢
        have hp := List.length_pos_iff.mpr ht.ne_nil
        rw [List.length_append] at hn
        exact tag t r ht (ih r.length (by omega) r rfl)
      · rw [List.length_cons] at hn
        exact char c s (fun t ht hp => h ⟨t,ht,hp⟩) (ih s.length (by omega) s rfl)

/-- If no tag begins at a character, none does when text is put behind it, unless the new tag lies
over the boundary. -/
theorem not_tag_append {c : Char} {s y : List Char} (hc : ∀ t, IsTagToken t → ¬ t <+: c :: s)
    (h : ¬ Straddles IsTagToken (c :: s) y) : ∀ t, IsTagToken t → ¬ t <+: c :: (s ++ y) := by
  rintro t ht ⟨b,hb⟩
  rw [← List.cons_append] at hb
  rcases List.append_eq_append_iff.mp hb with ⟨a,ha,-⟩ | ⟨v,rfl,rfl⟩
  · exact hc t ht ⟨a,ha.symm⟩
  · by_cases hv : v = []
    · exact hc _ ht (by simp [hv])
    · exact h ⟨c :: s,v,by simp,hv,List.suffix_refl _,List.prefix_append v b,ht⟩

/-- The tags of two texts are the tags of both, unless one lies over the boundary. So is the text
outside of tags. -/
theorem scan_append {x y : List Char} (h : ¬ Straddles IsTagToken x y) :
    tags (x ++ y) = tags x ++ tags y ∧ stripTags (x ++ y) = stripTags x ++ stripTags y := by
  induction x using scan_induction with
  | nil => simp [tags,stripTags,tokens]
  | char c s hc ih =>
    have ht := scan_char (not_tag_append hc h)
    have hs := ih fun k => h (k.mono (List.suffix_cons c s) (List.prefix_refl y))
    rw [List.cons_append,ht.1,ht.2,(scan_char hc).1,(scan_char hc).2,hs.1,hs.2]
    exact ⟨rfl,rfl⟩
  | tag t s ht ih =>
    have hs := ih fun k => h (k.mono (List.suffix_append t s) (List.prefix_refl y))
    rw [List.append_assoc,tags_tag ht,tags_tag ht,stripTags_tag ht,stripTags_tag ht,hs.1,hs.2]
    exact ⟨rfl,rfl⟩

theorem tags_append {x y : List Char} (h : ¬ Straddles IsTagToken x y) :
    tags (x ++ y) = tags x ++ tags y := (scan_append h).1

theorem stripTags_append {x y : List Char} (h : ¬ Straddles IsTagToken x y) :
    stripTags (x ++ y) = stripTags x ++ stripTags y := (scan_append h).2

/-- Text without an opening bracket holds no tag, and begins none. -/
theorem scan_unopened {w : List Char} (hw : '<' ∉ w) (s : List Char) :
    tags (w ++ s) = tags s ∧ stripTags (w ++ s) = w ++ stripTags s := by
  have hs : ¬ Straddles IsTagToken w s := fun h => hw (h.head_mem fun _ ht => ht.head?)
  have ht := scan_text (r := []) (fun d hd e => hw (e ▸ hd)) (by simp [Stops])
  rw [List.append_nil] at ht
  rw [tags_append hs,stripTags_append hs,ht.1,ht.2]
  simp [tags,stripTags,tokens]

theorem tags_of_unopened {w : List Char} (hw : '<' ∉ w) : tags w = [] := by
  have h := (scan_unopened hw []).1
  rw [List.append_nil] at h
  rw [h]
  simp [tags,tokens]

/-- Every tag of a markup is a piece of it, from an opening to a closing bracket. -/
theorem mem_tags {s t : List Char} (h : t ∈ tags s) : IsTagToken t ∧ t <:+: s := by
  induction s using scan_induction with
  | nil => simp [tags,tokens] at h
  | char c s hc ih =>
    rw [(scan_char hc).1] at h
    exact ⟨(ih h).1,(ih h).2.trans (List.suffix_cons c s).isInfix⟩
  | tag u s hu ih =>
    rw [tags_tag hu] at h
    rcases List.mem_cons.mp h with rfl | h
    · exact ⟨hu,(List.prefix_append t s).isInfix⟩
    · exact ⟨(ih h).1,(ih h).2.trans (List.suffix_append u s).isInfix⟩

/-- An opening bracket that is never closed is text. -/
theorem opener_mem_stripTags (a : List Char) {b : List Char} (h : '>' ∉ b) :
    '<' ∈ stripTags (a ++ '<' :: b) := by
  have hb : ∀ t, IsTagToken t → ¬ t <+: '<' :: b := by
    intro t ht hp
    rcases List.mem_cons.mp (hp.subset (List.mem_of_getLast? ht.getLast?)) with h' | h'
    · exact absurd h' (by decide)
    · exact h h'
  rw [stripTags_append (Clean.opener a b).tag,(scan_char hb).2]
  simp

/-! ## Closed brackets -/

/-- Every opening bracket is closed before the next one opens. -/
def BracketsClose (s : List Char) : Prop :=
  ∀ rest, '<' :: rest <:+ s → ∃ body after, rest = body ++ '>' :: after ∧ '<' ∉ body

/-- A closed opening bracket begins a tag, which ends at the first closing bracket. -/
theorem BracketsClose.exists_tag {s rest : List Char} (h : BracketsClose s)
    (hr : '<' :: rest <:+ s) : ∃ t r, '<' :: rest = t ++ r ∧ IsTagToken t := by
  obtain ⟨body,after,rfl,hb⟩ := h rest hr
  have hm : '>' ∈ body ++ '>' :: after := by simp
  obtain ⟨u,v,he,hu⟩ := List.eq_append_cons_of_mem hm
  have hp : u <+: body := by
    refine List.prefix_of_prefix_length_le (he ▸ List.prefix_append u _)
      (List.prefix_append body _) ?_
    by_contra hlt
    -- the bracket behind `body` would lie in `u`
    have hg : (body ++ '>' :: after)[body.length]? = some '>' := by simp
    rw [he,List.getElem?_append_left (by omega)] at hg
    exact hu (List.mem_of_getElem? hg)
  refine ⟨'<' :: (u ++ ['>']),v,by simp [he],u,?_,rfl⟩
  intro c hc
  have ho : c ≠ '<' := fun e => hb (e ▸ hp.subset hc)
  have hg : c ≠ '>' := fun e => hu (e ▸ hc)
  simp [inTag,ho,hg]

theorem bracketsClose_iff (s : List Char) : BracketsClose s ↔ '<' ∉ stripTags s := by
  constructor
  · intro h
    induction s using scan_induction with
    | nil => simp [stripTags,tokens]
    | char c s hc ih =>
      have ho : c ≠ '<' := by
        rintro rfl
        obtain ⟨t,r,he,ht⟩ := h.exists_tag (List.suffix_refl _)
        exact hc t ht ⟨r,he.symm⟩
      rw [(scan_char hc).2,List.mem_cons,not_or]
      exact ⟨ho.symm,ih fun rest hr => h rest (hr.trans (List.suffix_cons c s))⟩
    | tag t s ht ih =>
      rw [stripTags_tag ht]
      exact ih fun rest hr => h rest (hr.trans (List.suffix_append t s))
  · rintro h rest ⟨a,rfl⟩
    rw [stripTags_append (Clean.opener a rest).tag,List.mem_append,not_or] at h
    by_contra hn
    have hc : ∀ t, IsTagToken t → ¬ t <+: '<' :: rest := by
      rintro _ ⟨body,hb,rfl⟩ ⟨r,hr⟩
      refine hn ⟨body,r,?_,fun hm => absurd (hb '<' hm) (by decide)⟩
      simpa using hr.symm
    rw [(scan_char hc).2] at h
    exact h.2 List.mem_cons_self

instance (s : List Char) : Decidable (BracketsClose s) :=
  decidable_of_iff _ (bracketsClose_iff s).symm

section
variable {x y : List Char}

theorem BracketsClose.left (h : BracketsClose (x ++ y)) (hc : ¬ Straddles IsTagToken x y) :
    BracketsClose x := by
  rw [bracketsClose_iff,stripTags_append hc,List.mem_append,not_or] at h
  exact (bracketsClose_iff x).mpr h.1

theorem BracketsClose.right (h : BracketsClose (x ++ y)) : BracketsClose y :=
  fun rest hr => h rest (hr.trans (List.suffix_append x y))

theorem BracketsClose.append (hx : BracketsClose x) (hy : BracketsClose y)
    (hc : ¬ Straddles IsTagToken x y) : BracketsClose (x ++ y) := by
  rw [bracketsClose_iff] at hx hy ⊢
  rw [stripTags_append hc,List.mem_append]
  exact not_or.mpr ⟨hx,hy⟩

end

/-! ## Boundaries between tokens -/

theorem Stops.clean {y : List Char} (h : Stops y) (x : List Char) : Clean x y := by
  cases y with
  | nil => exact Clean.nil_right x
  | cons c y => rw [h c rfl]; exact Clean.opener x y

/-- The boundary behind a token is clean: the token is a tag, or it ends where a run of text does. -/
theorem clean_firstToken (x : List Char) (c : Char) (rest : List Char) :
    Clean (x ++ (firstToken c rest).1) (firstToken c rest).2 := by
  rcases firstToken_ends c rest with ht | hs
  · exact Clean.after_tag ht x _
  · exact hs.clean _

/-- Every boundary between tokens is clean. -/
theorem clean_tokens {s : List Char} {before after : List (List Char)}
    (h : tokens s = before ++ after) : Clean before.flatten after.flatten := by
  fun_induction tokens s generalizing before with
  | case1 =>
    obtain ⟨rfl,rfl⟩ := List.nil_eq_append_iff.mp h
    exact Clean.nil_left _
  | case2 c rest ih =>
    cases before with
    | nil => exact Clean.nil_left _
    | cons t before =>
      obtain ⟨rfl,hr⟩ := List.cons.inj (h.trans (List.cons_append ..))
      have ht := clean_firstToken [] c rest
      rw [← flatten_tokens (firstToken c rest).2,hr,List.flatten_append] at ht
      exact Clean.append_left ht (ih hr)

end ChatMarkup.Markup
