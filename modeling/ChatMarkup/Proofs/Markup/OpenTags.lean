import ChatMarkup.Proofs.Markup.Scan

/-!
# Carrying open tags over a cut

Only tags change which tags are open. An open tag is kept with the full text that opened it, so
reading that text again opens the same tag, and its name closes it. Two rules follow. A text that is
read after the tags open before it were opened again leaves the same tags open as in its old place.
And a balanced markup leaves no tag open, whatever it holds.
-/
namespace ChatMarkup.Markup
open Text

/-! ## Names and roles -/

def IsTagName (name : List Char) : Prop :=
  ∃ c rest, c.isAlpha = true ∧ (∀ d ∈ rest, inName d = true) ∧ name = c :: rest

theorem isTagName_of_tagName? {s name : List Char} (h : tagName? s = some name) :
    IsTagName name := by
  unfold tagName? at h
  split at h
  · cases h
  · next c rest =>
    split at h
    · next hc =>
      split at h
      · split at h
        · cases h
          exact ⟨c,rest.takeWhile inName,hc,fun d hd => List.mem_takeWhile_imp hd,rfl⟩
        · cases h
      · cases h
    · cases h

theorem IsTagName.inName {name : List Char} (h : IsTagName name) :
    ∀ c ∈ name, inName c = true := by
  obtain ⟨c,rest,hc,hr,rfl⟩ := h
  intro d hd
  rcases List.mem_cons.mp hd with rfl | hd
  · simp [Markup.inName,Char.isAlphanum,hc]
  · exact hr d hd

theorem IsTagName.inTag {name : List Char} (h : IsTagName name) :
    ∀ c ∈ name, inTag c = true := by
  intro c hc
  by_contra hn
  have hb : c = '<' ∨ c = '>' := by simpa [Markup.inTag,imp_iff_not_or,or_comm] using hn
  rcases hb with rfl | rfl <;> exact absurd (h.inName _ hc) (by decide)

/-- A name is read off whole where a space or a closing bracket follows it. -/
theorem IsTagName.tagName? {name : List Char} (h : IsTagName name) {d : Char}
    (hd : d = ' ' ∨ d = '>') (after : List Char) : tagName? (name ++ d :: after) = some name := by
  obtain ⟨c,rest,hc,hr,rfl⟩ := h
  have hn : Markup.inName d = false := by rcases hd with rfl | rfl <;> rfl
  have he : (isBlank d || d == '/' || d == '>') = true := by rcases hd with rfl | rfl <;> rfl
  have hdrop : (rest ++ d :: after).dropWhile Markup.inName = d :: after := by
    rw [List.dropWhile_append_of_pos hr,List.dropWhile_cons_of_neg (by simp [hn])]
  have htake : (rest ++ d :: after).takeWhile Markup.inName = rest := by
    rw [List.takeWhile_append_of_pos hr,List.takeWhile_cons_of_neg (by simp [hn]),
      List.append_nil]
  simp [Markup.tagName?,hc,hdrop,htake,he]

def closingTag (t : OpenTag) : List Char := ['<','/'] ++ t.name ++ ['>']

theorem isTagToken_closingTag {t : OpenTag} (h : IsTagName t.name) :
    IsTagToken (closingTag t) := by
  refine ⟨'/' :: t.name,?_,by simp [closingTag]⟩
  intro c hc
  rcases List.mem_cons.mp hc with rfl | hc
  · rfl
  · exact h.inTag c hc

theorem ampersand_notMem_closingTag {t : OpenTag} (h : IsTagName t.name) :
    '&' ∉ closingTag t := by
  have hn : '&' ∉ t.name := fun hm => absurd (h.inName _ hm) (by decide)
  simp [closingTag,hn]

theorem tagRole_closingTag {t : OpenTag} (h : IsTagName t.name) :
    tagRole (closingTag t) = .closes t.name := by
  unfold tagRole
  rw [if_pos (isTagToken_closingTag h).isTag]
  simp [closingTag,h.tagName? (.inr rfl)]

/-- A tag that opens an element has a name, and keeps its own text. -/
theorem tagRole_opens {u : List Char} {t : OpenTag} (h : tagRole u = .opens t) :
    t.text = u ∧ IsTagName t.name := by
  unfold tagRole at h
  split at h
  · split at h
    · split at h <;> cases h
    · split at h
      · next name hn =>
        split at h
        · cases h
        · cases h
          exact ⟨rfl,isTagName_of_tagName? hn⟩
      · cases h
    · cases h
  · cases h

/-! ## Tags that are open -/

theorem track_of_not_isTag {stack : List OpenTag} {u : List Char} (h : isTag u = false) :
    track stack u = stack := by
  simp [track,tagRole,h]

/-- Text changes nothing about the tags that are open. -/
theorem foldl_track_tokens (stack : List OpenTag) (s : List Char) :
    (tokens s).foldl track stack = (tags s).foldl track stack := by
  unfold tags
  induction tokens s generalizing stack with
  | nil => rfl
  | cons u us ih =>
    cases h : isTag u with
    | false =>
      rw [List.foldl_cons,track_of_not_isTag h,List.filter_cons_of_neg (by simp [h])]
      exact ih stack
    | true =>
      rw [List.foldl_cons,List.filter_cons_of_pos h,List.foldl_cons]
      exact ih (track stack u)

theorem openTags_eq (s : List Char) : openTags s = ((tags s).foldl track []).reverse := by
  rw [openTags,foldl_track_tokens]

/-- The text of an open tag is a tag, and reading it opens this very tag. -/
structure OpenTag.Proper (t : OpenTag) : Prop where
  token : IsTagToken t.text
  role : tagRole t.text = .opens t

theorem OpenTag.Proper.name {t : OpenTag} (h : t.Proper) : IsTagName t.name :=
  (tagRole_opens h.role).2

theorem mem_track {stack : List OpenTag} {u : List Char} {t : OpenTag}
    (h : t ∈ track stack u) : t ∈ stack ∨ tagRole u = .opens t := by
  unfold track at h
  split at h
  · exact .inl (List.mem_of_mem_eraseP h)
  · next tag hr =>
    rcases List.mem_cons.mp h with rfl | h
    · exact .inr hr
    · exact .inl h
  · exact .inl h

theorem mem_foldl_track {stack : List OpenTag} {us : List (List Char)} {t : OpenTag}
    (h : t ∈ us.foldl track stack) : t ∈ stack ∨ ∃ u ∈ us, tagRole u = .opens t := by
  induction us generalizing stack with
  | nil => exact .inl h
  | cons u us ih =>
    rcases ih h with h | ⟨v,hv,hr⟩
    · exact (mem_track h).imp_right fun hr => ⟨u,by simp,hr⟩
    · exact .inr ⟨v,List.mem_cons_of_mem u hv,hr⟩

/-- A tag that is open was opened by one of the tags of the markup. -/
theorem mem_openTags {s : List Char} {t : OpenTag} (h : t ∈ openTags s) :
    t.text ∈ tags s ∧ t.Proper := by
  rw [openTags_eq,List.mem_reverse] at h
  rcases mem_foldl_track h with h | ⟨u,hu,hr⟩
  · cases h
  · obtain rfl := (tagRole_opens hr).1
    exact ⟨hu,(mem_tags hu).1,hr⟩

theorem openTags_proper (s : List Char) : ∀ t ∈ openTags s, t.Proper :=
  fun _ h => (mem_openTags h).2

/-! ## Opening tags again -/

theorem tags_openingTags {ts : List OpenTag} (h : ∀ t ∈ ts, t.Proper) (y : List Char) :
    tags (openingTags ts ++ y) = ts.map (·.text) ++ tags y := by
  induction ts with
  | nil => rfl
  | cons t ts ih =>
    have ht := (h t (by simp)).token
    have hs := ih fun u hu => h u (List.mem_cons_of_mem t hu)
    rw [openingTags,List.flatMap_cons,List.append_assoc,tags_tag ht,← openingTags,hs]
    rfl

theorem clean_openingTags {ts : List OpenTag} (h : ∀ t ∈ ts, t.Proper) (y : List Char) :
    Clean (openingTags ts) y := by
  rcases List.eq_nil_or_concat ts with rfl | ⟨ts,t,rfl⟩
  · exact Clean.nil_left y
  · rw [List.concat_eq_append] at h ⊢
    rw [openingTags,List.flatMap_append,List.flatMap_singleton]
    exact Clean.after_tag (h t (by simp)).token _ y

theorem foldl_track_opening {ts : List OpenTag} (h : ∀ t ∈ ts, t.Proper)
    (stack : List OpenTag) :
    (ts.map (·.text)).foldl track stack = ts.reverse ++ stack := by
  induction ts generalizing stack with
  | nil => rfl
  | cons t ts ih =>
    have ht : track stack t.text = t :: stack := by simp [track,(h t (by simp)).role]
    rw [List.map_cons,List.foldl_cons,ht,ih fun u hu => h u (List.mem_cons_of_mem t hu)]
    simp

/-- Reading on from a text needs no more of it than the tags that it leaves open. -/
theorem openTags_append {x y : List Char} (h : ¬ Straddles IsTagToken x y) :
    openTags (x ++ y) = ((tags y).foldl track (openTags x).reverse).reverse := by
  rw [openTags_eq (x ++ y),tags_append h,List.foldl_append,openTags_eq x,List.reverse_reverse]

/-- Tags that are opened again are open, with the texts they had and in their order. -/
theorem openTags_openingTags (x : List Char) :
    openTags (openingTags (openTags x)) = openTags x := by
  have hp := openTags_proper x
  have ht := tags_openingTags hp []
  rw [List.append_nil] at ht
  rw [openTags_eq,ht,List.foldl_append,foldl_track_opening hp,List.append_nil]
  simp [tags,tokens]

/-- Behind the tags that were open before it, opened again, a text leaves the same tags open as in
its old place. -/
theorem openTags_reopened {x y : List Char} (h : ¬ Straddles IsTagToken x y) :
    openTags (openingTags (openTags x) ++ y) = openTags (x ++ y) := by
  rw [openTags_append (clean_openingTags (openTags_proper x) y).tag,openTags_openingTags,
    openTags_append h]

/-! ## Closing tags -/

theorem closingTags_eq (ts : List OpenTag) :
    closingTags ts = ts.reverse.flatMap closingTag := rfl

theorem tags_closing {ts : List OpenTag} (h : ∀ t ∈ ts, t.Proper) :
    tags (ts.flatMap closingTag) = ts.map closingTag := by
  induction ts with
  | nil => simp [tags,tokens]
  | cons t ts ih =>
    have ht := isTagToken_closingTag (h t (by simp)).name
    rw [List.flatMap_cons,tags_tag ht,ih fun u hu => h u (List.mem_cons_of_mem t hu)]
    rfl

theorem foldl_track_closing {stack : List OpenTag} (h : ∀ t ∈ stack, t.Proper) :
    (stack.map closingTag).foldl track stack = [] := by
  induction stack with
  | nil => rfl
  | cons t stack ih =>
    have ht : track (t :: stack) (closingTag t) = stack := by
      simp [track,tagRole_closingTag (h t (by simp)).name]
    rw [List.map_cons,List.foldl_cons,ht]
    exact ih fun u hu => h u (List.mem_cons_of_mem t hu)

theorem clean_closingTags (x : List Char) (ts : List OpenTag) : Clean x (closingTags ts) := by
  apply Stops.clean
  intro c hc
  rw [closingTags_eq] at hc
  cases hr : ts.reverse with
  | nil => simp [hr] at hc
  | cons t rest => simpa [hr,closingTag,eq_comm] using hc

/-- A balanced markup leaves no tag open. -/
theorem openTags_balance (s : List Char) : openTags (balance s) = [] := by
  have hp : ∀ t ∈ (openTags s).reverse, t.Proper := by
    intro t ht
    exact openTags_proper s t (List.mem_reverse.mp ht)
  have hb := tags_append (clean_closingTags s (openTags s)).tag
  have hs : (tags s).foldl track [] = (openTags s).reverse := by
    rw [openTags_eq,List.reverse_reverse]
  rw [openTags_eq,balance,hb,closingTags_eq,tags_closing hp,List.foldl_append,hs,
    foldl_track_closing hp]
  rfl

end ChatMarkup.Markup
