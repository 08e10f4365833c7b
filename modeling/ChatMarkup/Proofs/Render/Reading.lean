import ChatMarkup.Proofs.Render.Grammar

/-!
# Reading what is rendered

A reader splits a message into tags and runs of text, without knowing how it was put together. The
message is safe if all that the reader finds are the known tags, properly nested, with nothing in
their values or between them that could be taken for a tag, or for a reference other than the five
that are written. Content in the sense of the grammar is safe, and well formed.
-/
namespace ChatMarkup.Render
open Text Markup

/-- One of the tags of messages: without a value, with an unmarked value, or ending an element. -/
inductive KnownTag : List Char → Prop
  | bare {tag : OpenTag} : tag ∈ bareTags → KnownTag tag.text
  | valued {head : OpenTag} {value : List Char} :
      head ∈ tagHeads → Unmarked value → KnownTag (head.text ++ value ++ "\">".toList)
  | closing {tag : OpenTag} : tag ∈ bareTags ++ tagHeads → KnownTag (closingTag tag)

/-- What a reader finds in a message is known tags, properly nested, and unmarked text, and every
ampersand begins one of the references of messages. -/
structure Safe (s : List Char) : Prop where
  tags : ∀ t ∈ tokens s, isTag t = true → KnownTag t
  runs : ∀ t ∈ tokens s, isTag t = false → Unmarked t
  nesting : (tokens s).foldlM nest [] = some []
  references : EachAmpersand (· ∈ references) s

/-! ## Tags -/

theorem Unmarked.inTag {s : List Char} (h : Unmarked s) : ∀ c ∈ s, inTag c = true := by
  intro c hc
  simp [Markup.inTag,(h c hc).1,(h c hc).2.1]

/-- A tag that ends in a quotation mark and a bracket opens the element of its name. -/
theorem tagRole_quoted {name body : List Char} (hn : IsTagName name)
    (hv : lowerName name ∉ voidElements)
    (ht : IsTagToken ('<' :: (name ++ ' ' :: (body ++ ['"','>'])))) :
    tagRole ('<' :: (name ++ ' ' :: (body ++ ['"','>']))) =
      .opens ⟨name,'<' :: (name ++ ' ' :: (body ++ ['"','>']))⟩ := by
  have hs : endsWith ['/','>'] ('<' :: (name ++ ' ' :: (body ++ ['"','>']))) = false := by
    rw [endsWith,Bool.eq_false_iff,ne_eq,List.isSuffixOf_iff_suffix]
    intro h
    have hq : ['"','>'] <:+ '<' :: (name ++ ' ' :: (body ++ ['"','>'])) :=
      ⟨'<' :: (name ++ ' ' :: body),by simp⟩
    have he := (List.suffix_of_suffix_length_le h hq le_rfl).eq_of_length rfl
    exact absurd he (by decide)
  have hr := hn.tagName? (.inl rfl) (body ++ ['"','>'])
  obtain ⟨c,rest,hc,-,rfl⟩ := hn
  have hc' : c ≠ '/' := by rintro rfl; exact absurd hc (by decide)
  unfold tagRole
  rw [if_pos ht.isTag]
  rw [List.cons_append] at hr hs ⊢
  simp [hr,hs,hv,hc']

/-- The parts of a tag up to its value: a name, and what stands between the name and the value. -/
theorem tagHead_parts : ∀ head ∈ tagHeads,
    tagName? (head.name ++ ['>']) = some head.name ∧ lowerName head.name ∉ voidElements ∧
      (head.text.drop (head.name.length+2)).all inTag = true ∧
      head.text = '<' :: (head.name ++ ' ' :: head.text.drop (head.name.length+2)) := by
  decide

theorem bareTag_parts : ∀ tag ∈ bareTags,
    tagRole tag.text = .opens tag ∧
      tag.text.tail.dropLast.all inTag = true ∧
      tag.text = '<' :: (tag.text.tail.dropLast ++ ['>']) := by
  decide

theorem proper_withValue {head : OpenTag} {value : List Char} (hh : head ∈ tagHeads)
    (hv : Unmarked value) : (withValue head value).Proper := by
  obtain ⟨hn,hv',hb,he⟩ := tagHead_parts head hh
  generalize head.text.drop (head.name.length+2) = body at hb he
  have hn' : IsTagName head.name := isTagName_of_tagName? hn
  have ht : (withValue head value).text =
      '<' :: (head.name ++ ' ' :: (body ++ value ++ ['"','>'])) := by
    rw [withValue,he]
    simp
  have hk : IsTagToken ('<' :: (head.name ++ ' ' :: (body ++ value ++ ['"','>']))) := by
    refine ⟨head.name ++ ' ' :: (body ++ value ++ ['"']),?_,by simp⟩
    have hq : inTag ' ' = true ∧ inTag '"' = true := by decide
    simp only [List.mem_append,List.mem_cons,List.not_mem_nil,or_false]
    rintro c (hc | rfl | (hc | hc) | rfl)
    · exact hn'.inTag c hc
    · exact hq.1
    · exact List.all_eq_true.mp hb c hc
    · exact hv.inTag c hc
    · exact hq.2
  constructor
  · rw [ht]
    exact hk
  · rw [ht,tagRole_quoted hn' hv' hk,← ht]
    rfl

theorem proper_bare {tag : OpenTag} (h : tag ∈ bareTags) : tag.Proper := by
  obtain ⟨hr,hb,he⟩ := bareTag_parts tag h
  exact ⟨⟨_,List.all_eq_true.mp hb,he⟩,hr⟩

theorem proper_of_opens {tag : OpenTag} (h : Opens tag) : tag.Proper := by
  cases h with
  | bare ht => exact proper_bare ht
  | valued hh hv => exact proper_withValue hh hv.unmarked

/-- No known tag merely stands there, so nesting leaves none of them out. -/
theorem KnownTag.role {t : List Char} (h : KnownTag t) :
    (∃ tag, tagRole t = .opens tag) ∨ ∃ name, tagRole t = .closes name := by
  cases h with
  | bare ht => exact .inl ⟨_,(proper_bare ht).role⟩
  | valued hh hv => exact .inl ⟨_,(proper_withValue hh hv).role⟩
  | @closing tag ht =>
    have hn : IsTagName tag.name := by
      rcases List.mem_append.mp ht with ht | ht
      · exact (proper_bare ht).name
      · exact isTagName_of_tagName? (tagHead_parts tag ht).1
    exact .inr ⟨_,tagRole_closingTag hn⟩

theorem knownTag_text {tag : OpenTag} (h : Opens tag) : KnownTag tag.text := by
  cases h with
  | bare ht => exact .bare ht
  | valued hh hv => exact .valued hh hv.unmarked

theorem knownTag_closing {tag : OpenTag} (h : Opens tag) : KnownTag (closingTag tag) := by
  cases h with
  | bare ht => exact .closing (List.mem_append_left _ ht)
  | @valued head value hh _ =>
    have hc : closingTag (withValue head value) = closingTag head := rfl
    rw [hc]
    exact .closing (List.mem_append_right bareTags hh)

theorem ampersands_text {tag : OpenTag} (h : Opens tag) :
    EachAmpersand (· ∈ references) tag.text := by
  cases h with
  | bare ht =>
    have hb : ∀ tag ∈ bareTags, '&' ∉ tag.text := by decide
    exact .of_notMem (hb _ ht)
  | valued hh hv =>
    have hb : ∀ head ∈ tagHeads, '&' ∉ head.text := by decide
    have hq : '&' ∉ "\">".toList := by decide
    exact ((EachAmpersand.of_notMem (hb _ hh)).append hv.ampersands).append (.of_notMem hq)

/-! ## Content -/

/-- An element adds its two tags around those of its content, and no text. -/
theorem scan_element {tag : OpenTag} (h : Opens tag) (inner s : List Char) :
    tags (tag.text ++ inner ++ closingTag tag ++ s) =
        tag.text :: (tags inner ++ closingTag tag :: tags s) ∧
      stripTags (tag.text ++ inner ++ closingTag tag ++ s) =
        stripTags inner ++ stripTags s := by
  have hp := proper_of_opens h
  have hc := isTagToken_closingTag hp.name
  have hb : ¬ Straddles IsTagToken inner (closingTag tag ++ s) :=
    (Clean.before_tag hc inner s).tag
  rw [List.append_assoc,List.append_assoc]
  rw [tags_tag hp.token,stripTags_tag hp.token,tags_append hb,stripTags_append hb]
  rw [tags_tag hc,stripTags_tag hc]
  exact ⟨rfl,rfl⟩

theorem Prose.opener_notMem {w : List Char} (h : Prose w) : '<' ∉ w :=
  fun hm => (h.unmarked _ hm).1 rfl

namespace Content
variable {s : List Char}

theorem knownTags (h : Content s) : ∀ t ∈ tags s, KnownTag t := by
  induction h with
  | nil => simp [tags,tokens]
  | @prose w s hw _ ih =>
    rw [(scan_unopened hw.opener_notMem s).1]
    exact ih
  | @element tag inner s ht _ _ ihi ihs =>
    rw [(scan_element ht inner s).1]
    intro t hm
    rcases List.mem_cons.mp hm with rfl | hm
    · exact knownTag_text ht
    rcases List.mem_append.mp hm with hm | hm
    · exact ihi t hm
    rcases List.mem_cons.mp hm with rfl | hm
    · exact knownTag_closing ht
    · exact ihs t hm

/-- Content leaves open what is open before it. -/
theorem nesting (h : Content s) : ∀ stack, (tags s).foldlM nest stack = some stack := by
  induction h with
  | nil => simp [tags,tokens]
  | @prose w s hw _ ih =>
    rw [(scan_unopened hw.opener_notMem s).1]
    exact ih
  | @element tag inner s ht _ _ ihi ihs =>
    intro stack
    have hp := proper_of_opens ht
    have ho : nest stack tag.text = some (tag :: stack) := by simp [nest,hp.role]
    have hc : nest (tag :: stack) (closingTag tag) = some stack := by
      simp [nest,tagRole_closingTag hp.name]
    rw [(scan_element ht inner s).1,List.foldlM_cons,ho,Option.bind_eq_bind,Option.bind_some,
      List.foldlM_append,ihi,Option.bind_eq_bind,Option.bind_some,List.foldlM_cons,hc]
    exact ihs stack

theorem unmarked (h : Content s) : Unmarked (stripTags s) := by
  induction h with
  | nil => simp [Unmarked,stripTags,tokens]
  | @prose w s hw _ ih =>
    rw [(scan_unopened hw.opener_notMem s).2]
    intro c hc
    exact (List.mem_append.mp hc).elim (hw.unmarked c) (ih c)
  | @element tag inner s ht _ _ ihi ihs =>
    rw [(scan_element ht inner s).2]
    intro c hc
    exact (List.mem_append.mp hc).elim (ihi c) (ihs c)

theorem ampersands (h : Content s) : EachAmpersand (· ∈ references) s := by
  induction h with
  | nil => exact .of_notMem (by simp)
  | prose hw _ ih => exact hw.ampersands.append ih
  | element ht _ _ ihi ihs =>
    have hc := ampersand_notMem_closingTag (proper_of_opens ht).name
    exact (((ampersands_text ht).append ihi).append (.of_notMem hc)).append ihs

/-- A reader finds nothing else in content than what the grammar put there. -/
theorem safe (h : Content s) : Safe s := by
  constructor
  · intro t ht hi
    exact h.knownTags t (List.mem_filter.mpr ⟨ht,hi⟩)
  · intro t ht hi c hc
    have hf : t ∈ (tokens s).filter fun t => !isTag t := List.mem_filter.mpr ⟨ht,by simp [hi]⟩
    exact h.unmarked c (List.mem_flatten.mpr ⟨t,hf,hc⟩)
  · rw [foldlM_nest_tokens]
    exact h.nesting []
  · exact h.ampersands

end Content

theorem isReference_of_mem {r : List Char} (h : r ∈ references) : IsReference r := by
  simp only [references,List.mem_cons,List.not_mem_nil,or_false] at h
  rcases h with rfl | rfl | rfl | rfl | rfl
  · exact ⟨[],"amp".toList,.inl rfl,by decide,List.all_eq_true.mp (by decide),rfl⟩
  · exact ⟨[],"lt".toList,.inl rfl,by decide,List.all_eq_true.mp (by decide),rfl⟩
  · exact ⟨[],"gt".toList,.inl rfl,by decide,List.all_eq_true.mp (by decide),rfl⟩
  · exact ⟨[],"quot".toList,.inl rfl,by decide,List.all_eq_true.mp (by decide),rfl⟩
  · exact ⟨['#'],"160".toList,.inr rfl,by decide,List.all_eq_true.mp (by decide),rfl⟩

/-- A safe message is well formed, so it can be cut and split. -/
theorem Safe.wellFormed {s : List Char} (h : Safe s) : WellFormed s := by
  refine ⟨fun t ht hc => ?_,h.nesting,?_⟩
  · by_contra hn
    exact (h.runs t ht (by simpa using hn) _ hc).1 rfl
  · exact (wholeReferences_iff s).mpr (h.references.mono fun r => isReference_of_mem)

end ChatMarkup.Render
