import ChatMarkup.Markup.Split

/-!
# Boundaries in a markup

Where a markup is cut in two, the boundary may fall strictly inside a tag or a character reference.
It is clean if it does neither. Clean boundaries compose: whether a boundary is clean can be checked
on the texts next to it, as long as the boundaries around these are clean themselves.

Nothing is said here about where a cut is placed.
-/
namespace ChatMarkup.Markup
open Text

def IsTagToken (t : List Char) : Prop :=
  ∃ body, (∀ c ∈ body, inTag c = true) ∧ t = '<' :: (body ++ ['>'])

def IsReference (t : List Char) : Prop :=
  ∃ sign name, (sign = [] ∨ sign = ['#']) ∧ name ≠ [] ∧ (∀ c ∈ name, isWord c = true) ∧
    t = '&' :: (sign ++ (name ++ [';']))

/-- A piece of this kind begins before the boundary of two texts and ends behind it. -/
def Straddles (kind : List Char → Prop) (x y : List Char) : Prop :=
  ∃ u v, u ≠ [] ∧ v ≠ [] ∧ u <:+ x ∧ v <+: y ∧ kind (u ++ v)

/-- The boundary of two texts lies strictly inside neither a tag nor a character reference. -/
structure Clean (x y : List Char) : Prop where
  tag : ¬ Straddles IsTagToken x y
  reference : ¬ Straddles IsReference x y

section
variable {kind : List Char → Prop} {x y z : List Char}

/-- Only the text next to the boundary counts. -/
theorem Straddles.mono {x' y' : List Char} (h : Straddles kind x y) (hx : x <:+ x')
    (hy : y <+: y') : Straddles kind x' y' := by
  obtain ⟨u,v,hu,hv,hux,hvy,hk⟩ := h
  exact ⟨u,v,hu,hv,hux.trans hx,hvy.trans hy,hk⟩

/-- A piece that reaches over the left end of `y` lies over the boundary before `y`. -/
theorem Straddles.append_left (h : Straddles kind (x ++ y) z) :
    Straddles kind y z ∨ Straddles kind x (y ++ z) := by
  obtain ⟨u,v,hu,hv,⟨a,ha⟩,hvz,hk⟩ := h
  rcases List.append_eq_append_iff.mp ha with ⟨u',rfl,rfl⟩ | ⟨b,-,rfl⟩
  · by_cases he : u' = []
    · subst he
      exact .inl ⟨y,v,hu,hv,List.suffix_refl y,hvz,hk⟩
    · refine .inr ⟨u',y ++ v,he,by simp [hv],List.suffix_append a u',?_,by simpa using hk⟩
      exact (List.prefix_append_right_inj y).mpr hvz
  · exact .inl ⟨u,v,hu,hv,List.suffix_append b u,hvz,hk⟩

/-- A piece that reaches over the right end of `y` lies over the boundary behind `y`. -/
theorem Straddles.append_right (h : Straddles kind x (y ++ z)) :
    Straddles kind x y ∨ Straddles kind (x ++ y) z := by
  obtain ⟨u,v,hu,hv,hux,⟨b,hb⟩,hk⟩ := h
  rcases List.append_eq_append_iff.mp hb with ⟨a,rfl,-⟩ | ⟨v',rfl,rfl⟩
  · exact .inl ⟨u,v,hu,hv,hux,List.prefix_append v a,hk⟩
  · by_cases he : v' = []
    · subst he
      exact .inl ⟨u,y,hu,by simpa using hv,hux,List.prefix_refl y,by simpa using hk⟩
    · refine .inr ⟨u ++ y,v',by simp [hu],he,?_,List.prefix_append v' b,by simpa using hk⟩
      obtain ⟨a,rfl⟩ := hux
      exact ⟨a,by simp⟩

/-- No piece goes on behind a character that can only be its last one. -/
theorem not_straddles_of_last {c : Char} (h : ∀ t, kind t → c ∉ t.dropLast) :
    ¬ Straddles kind (x ++ [c]) y := by
  rintro ⟨u,v,hu,hv,hux,-,hk⟩
  have hc : c ∈ u := by
    rcases List.suffix_concat_iff.mp hux with rfl | ⟨a,rfl,-⟩
    · exact absurd rfl hu
    · simp
  apply h _ hk
  rw [List.dropLast_append_of_ne_nil hv]
  exact List.mem_append_left _ hc

/-- A piece over a boundary ends behind it. -/
theorem Straddles.last_mem {c : Char} (h : Straddles kind x y)
    (hl : ∀ t, kind t → t.getLast? = some c) : c ∈ y := by
  obtain ⟨u,v,-,hv,-,hvy,hk⟩ := h
  have hg := hl _ hk
  rw [List.getLast?_append,List.getLast?_eq_some_getLast hv,Option.some_or] at hg
  exact hvy.subset (List.mem_of_getLast? ((List.getLast?_eq_some_getLast hv).trans hg))

/-- A piece over a boundary begins before it. -/
theorem Straddles.head_mem {c : Char} (h : Straddles kind x y)
    (hh : ∀ t, kind t → t.head? = some c) : c ∈ x := by
  obtain ⟨u,v,hu,-,hux,-,hk⟩ := h
  have hg := hh _ hk
  rw [List.head?_append,List.head?_eq_some_head hu,Option.some_or] at hg
  exact hux.subset (List.mem_of_head? ((List.head?_eq_some_head hu).trans hg))

/-- No piece has begun before a character that can only be its first one. -/
theorem not_straddles_of_head {c : Char} (h : ∀ t, kind t → c ∉ t.tail) :
    ¬ Straddles kind x (c :: y) := by
  rintro ⟨u,v,hu,hv,-,hvy,hk⟩
  have hc : c ∈ v := by
    rcases List.prefix_cons_iff.mp hvy with rfl | ⟨a,rfl,-⟩
    · exact absurd rfl hv
    · simp
  apply h _ hk
  rw [List.tail_append_of_ne_nil hu]
  exact List.mem_append_right _ hc

end

/-! ## Brackets and references -/

theorem IsTagToken.opener_notMem_tail {t : List Char} (h : IsTagToken t) : '<' ∉ t.tail := by
  obtain ⟨body,hb,rfl⟩ := h
  intro hm
  rcases List.mem_append.mp hm with hm | hm
  · exact absurd (hb '<' hm) (by decide)
  · simp at hm

theorem IsTagToken.head? {t : List Char} (h : IsTagToken t) : t.head? = some '<' := by
  obtain ⟨body,-,rfl⟩ := h
  rfl

theorem IsTagToken.getLast? {t : List Char} (h : IsTagToken t) : t.getLast? = some '>' := by
  obtain ⟨body,-,rfl⟩ := h
  rw [← List.cons_append,List.getLast?_concat]

theorem IsTagToken.closer_notMem_dropLast {t : List Char} (h : IsTagToken t) :
    '>' ∉ t.dropLast := by
  obtain ⟨body,hb,rfl⟩ := h
  rw [← List.cons_append,List.dropLast_concat]
  intro hm
  rcases List.mem_cons.mp hm with hm | hm
  · exact absurd hm (by decide)
  · exact absurd (hb '>' hm) (by decide)

/-- After its ampersand a reference holds word characters, the sign, and the semicolon. -/
theorem IsReference.mem {t : List Char} (h : IsReference t) {c : Char} (hc : c ∈ t) :
    c = '&' ∨ c = '#' ∨ c = ';' ∨ isWord c = true := by
  obtain ⟨sign,name,hs,-,hw,rfl⟩ := h
  rcases List.mem_cons.mp hc with hc | hc
  · exact .inl hc
  rcases List.mem_append.mp hc with hc | hc
  · rcases hs with rfl | rfl
    · simp at hc
    · exact .inr (.inl (by simpa using hc))
  rcases List.mem_append.mp hc with hc | hc
  · exact .inr (.inr (.inr (hw c hc)))
  · exact .inr (.inr (.inl (by simpa using hc)))

theorem IsReference.getLast? {t : List Char} (h : IsReference t) : t.getLast? = some ';' := by
  obtain ⟨sign,name,-,-,-,rfl⟩ := h
  rw [← List.append_assoc,← List.cons_append,List.getLast?_concat]

theorem IsReference.opener_notMem {t : List Char} (h : IsReference t) : '<' ∉ t := by
  intro hc
  rcases h.mem hc with h | h | h | h <;> revert h <;> decide

theorem IsReference.closer_notMem {t : List Char} (h : IsReference t) : '>' ∉ t := by
  intro hc
  rcases h.mem hc with h | h | h | h <;> revert h <;> decide

theorem IsReference.ampersand_notMem_tail {t : List Char} (h : IsReference t) :
    '&' ∉ t.tail := by
  obtain ⟨sign,name,hs,-,hw,rfl⟩ := h
  intro hm
  rcases List.mem_append.mp hm with hm | hm
  · rcases hs with rfl | rfl <;> simp at hm
  rcases List.mem_append.mp hm with hm | hm
  · exact absurd (hw '&' hm) (by decide)
  · simp at hm

theorem IsReference.semicolon_notMem_dropLast {t : List Char} (h : IsReference t) :
    ';' ∉ t.dropLast := by
  obtain ⟨sign,name,hs,-,hw,rfl⟩ := h
  rw [← List.append_assoc,← List.cons_append,List.dropLast_concat]
  intro hm
  rcases List.mem_cons.mp hm with hm | hm
  · exact absurd hm (by decide)
  rcases List.mem_append.mp hm with hm | hm
  · rcases hs with rfl | rfl <;> simp at hm
  · exact absurd (hw ';' hm) (by decide)

/-! ## Clean boundaries -/

namespace Clean
variable {x y z : List Char}

theorem nil_left (y : List Char) : Clean [] y := by
  constructor <;>
  · rintro ⟨u,v,hu,-,hux,-,-⟩
    exact hu (List.suffix_nil.mp hux)

theorem nil_right (x : List Char) : Clean x [] := by
  constructor <;>
  · rintro ⟨u,v,-,hv,-,hvy,-⟩
    exact hv (List.prefix_nil.mp hvy)

/-- A boundary behind a closing bracket is clean. -/
theorem closer (x y : List Char) : Clean (x ++ ['>']) y := by
  constructor
  · exact not_straddles_of_last fun t h => h.closer_notMem_dropLast
  · exact not_straddles_of_last fun t h hm => h.closer_notMem (List.dropLast_subset t hm)

/-- A boundary before an opening bracket is clean. -/
theorem opener (x y : List Char) : Clean x ('<' :: y) := by
  constructor
  · exact not_straddles_of_head fun t h => h.opener_notMem_tail
  · exact not_straddles_of_head fun t h hm => h.opener_notMem (List.mem_of_mem_tail hm)

/-- Clean within the last part of a text, and clean before that part. -/
theorem append_left (h₁ : Clean x (y ++ z)) (h₂ : Clean y z) : Clean (x ++ y) z :=
  ⟨fun h => h.append_left.elim h₂.tag h₁.tag,
    fun h => h.append_left.elim h₂.reference h₁.reference⟩

/-- Clean within the first part of a text, and clean behind that part. -/
theorem append_right (h₁ : Clean x y) (h₂ : Clean (x ++ y) z) : Clean x (y ++ z) :=
  ⟨fun h => h.append_right.elim h₁.tag h₂.tag,
    fun h => h.append_right.elim h₁.reference h₂.reference⟩

/-- A boundary before text that ends neither tags nor references is clean. -/
theorem before_text (x : List Char) {y : List Char} (hg : '>' ∉ y) (hs : ';' ∉ y) :
    Clean x y :=
  ⟨fun h => hg (h.last_mem fun _ k => k.getLast?),fun h => hs (h.last_mem fun _ k => k.getLast?)⟩

theorem after_tag {t : List Char} (ht : IsTagToken t) (x y : List Char) : Clean (x ++ t) y := by
  obtain ⟨body,-,rfl⟩ := ht
  rw [← List.cons_append,← List.append_assoc]
  exact closer _ y

theorem before_tag {t : List Char} (ht : IsTagToken t) (x y : List Char) : Clean x (t ++ y) := by
  obtain ⟨body,-,rfl⟩ := ht
  exact opener x _

theorem mono {x' y' : List Char} (h : Clean x y) (hx : x' <:+ x) (hy : y' <+: y) :
    Clean x' y' :=
  ⟨fun k => h.tag (k.mono hx hy), fun k => h.reference (k.mono hx hy)⟩

end Clean

end ChatMarkup.Markup
