import ChatMarkup.CharRef.Decode
import ChatMarkup.Proofs.Render.Reading
import ChatMarkup.Spoiler

/-!
# What a message shows

A message is read back by writing the tags of spoilers as the bars they came from, leaving out all
other tags and decoding the references in what is left. Each of these steps takes a message piece by
piece: a plain character, a reference or a tag, wherever it stands. So the pieces that a message is
made of tell what is read back from it.
-/
namespace ChatMarkup.Render
open Text Markup

/-- The text with one piece in the place of every occurrence of another. The number counts the
characters of an occurrence that are still to be passed over. -/
def replaceFrom (piece new : List Char) : ℕ → List Char → List Char
  | _, [] => []
  | skip+1, _ :: rest => replaceFrom piece new skip rest
  | 0, c :: rest =>
    if piece.isPrefixOf (c :: rest) then new ++ replaceFrom piece new (piece.length-1) rest
    else c :: replaceFrom piece new 0 rest

def withBars (s : List Char) : List Char :=
  replaceFrom Spoiler.closeTag Spoiler.marker 0 (replaceFrom Spoiler.openTag Spoiler.marker 0 s)

/-- The text that a message shows, with its spoilers marked by bars. -/
def readBack (s : List Char) : List Char := CharRef.decodeText (stripTags (withBars s))

/-! ## Replacing -/

section Replace
variable {piece new : List Char}

theorem replaceFrom_skip (w s : List Char) :
    replaceFrom piece new w.length (w ++ s) = replaceFrom piece new 0 s := by
  induction w with
  | nil => rfl
  | cons c w ih => exact ih

theorem replaceFrom_piece (hp : piece ≠ []) (s : List Char) :
    replaceFrom piece new 0 (piece ++ s) = new ++ replaceFrom piece new 0 s := by
  obtain ⟨c,more,rfl⟩ := List.exists_cons_of_ne_nil hp
  have hpre : (c :: more).isPrefixOf (c :: (more ++ s)) = true := by simp
  rw [List.cons_append,replaceFrom,hpre,if_pos rfl]
  exact congrArg _ (replaceFrom_skip more s)

theorem replaceFrom_unopened (hp : IsTagToken piece) {w : List Char} (hw : '<' ∉ w)
    (s : List Char) : replaceFrom piece new 0 (w ++ s) = w ++ replaceFrom piece new 0 s := by
  induction w with
  | nil => rfl
  | cons c w ih =>
    simp only [List.mem_cons,not_or] at hw
    obtain ⟨more,rfl⟩ := List.head?_eq_some_iff.mp hp.head?
    have hpre : ('<' :: more).isPrefixOf (c :: (w ++ s)) = false := by
      simp [List.isPrefixOf,hw.1]
    rw [List.cons_append,replaceFrom,hpre,if_neg Bool.false_ne_true,ih hw.2,List.cons_append]

/-- At one place only one tag can stand. -/
theorem eq_of_prefix_tag {t u s : List Char} (ht : IsTagToken t) (hu : IsTagToken u)
    (h : t <+: u ++ s) : t = u := by
  obtain ⟨b,hb,rfl⟩ := ht
  obtain ⟨d,hd,rfl⟩ := hu
  obtain ⟨after,h⟩ := h
  have h₁ := firstToken_tag hb after
  have h₂ := firstToken_tag hd s
  simp only [List.cons_append,List.append_assoc,List.nil_append,List.cons.injEq,true_and] at h
  rw [h,h₂] at h₁
  exact (Prod.mk.inj h₁).1.symm

theorem replaceFrom_tag (hp : IsTagToken piece) {t : List Char} (ht : IsTagToken t)
    (hne : piece ≠ t) (s : List Char) :
    replaceFrom piece new 0 (t ++ s) = t ++ replaceFrom piece new 0 s := by
  have hpre : piece.isPrefixOf (t ++ s) = false := by
    rw [← Bool.not_eq_true,List.isPrefixOf_iff_prefix]
    exact fun h => hne (eq_of_prefix_tag hp ht h)
  have htail := ht.opener_notMem_tail
  obtain ⟨more,rfl⟩ := List.head?_eq_some_iff.mp ht.head?
  rw [List.tail_cons] at htail
  rw [List.cons_append] at hpre ⊢
  rw [replaceFrom,hpre,if_neg Bool.false_ne_true,replaceFrom_unopened hp htail]
  rfl

end Replace

/-! ## Tags of spoilers -/

theorem isTagToken_openTag : IsTagToken Spoiler.openTag :=
  ⟨"tg-spoiler".toList,List.all_eq_true.mp (by decide),rfl⟩

theorem isTagToken_closeTag : IsTagToken Spoiler.closeTag :=
  ⟨"/tg-spoiler".toList,List.all_eq_true.mp (by decide),rfl⟩

/-! ## Bars in the place of tags -/

theorem withBars_unopened {w : List Char} (hw : '<' ∉ w) (s : List Char) :
    withBars (w ++ s) = w ++ withBars s := by
  rw [withBars,replaceFrom_unopened isTagToken_openTag hw,
    replaceFrom_unopened isTagToken_closeTag hw]
  rfl

theorem withBars_openTag (s : List Char) :
    withBars (Spoiler.openTag ++ s) = Spoiler.marker ++ withBars s := by
  rw [withBars,replaceFrom_piece (by decide),replaceFrom_unopened isTagToken_closeTag (by decide)]
  rfl

theorem withBars_closeTag (s : List Char) :
    withBars (Spoiler.closeTag ++ s) = Spoiler.marker ++ withBars s := by
  rw [withBars,replaceFrom_tag isTagToken_openTag isTagToken_closeTag (by decide),
    replaceFrom_piece (by decide)]
  rfl

/-! ## Pieces of messages -/

theorem decodeText_plain {w : List Char} (hw : '&' ∉ w) (s : List Char) :
    CharRef.decodeText (w ++ s) = w ++ CharRef.decodeText s := by
  induction w with
  | nil => rfl
  | cons c w ih =>
    simp only [List.mem_cons,not_or] at hw
    have hc : (c == '&') = false := by simpa using Ne.symm hw.1
    have hr := ih hw.2
    unfold CharRef.decodeText at hr ⊢
    rw [List.cons_append,CharRef.replaceFrom,hc,if_neg Bool.false_ne_true,hr,List.cons_append]

/-- Text in which no tag begins is decoded, together with what follows it. -/
theorem readBack_unopened {w : List Char} (hw : '<' ∉ w) (s : List Char) :
    readBack (w ++ s) = CharRef.decodeText (w ++ stripTags (withBars s)) := by
  rw [readBack,withBars_unopened hw,(scan_unopened hw _).2]

theorem readBack_plain {c : Char} (hc : isPlain c = true) (s : List Char) :
    readBack (c :: s) = c :: readBack s := by
  simp only [isPlain,Bool.and_eq_true,bne_iff_ne] at hc
  have hw : '<' ∉ [c] := by simpa using hc.1.1.2.symm
  have ha : '&' ∉ [c] := by simpa using hc.1.1.1.symm
  rw [← List.singleton_append,readBack_unopened hw,decodeText_plain ha]
  rfl

/-- What a character is escaped to is read as the character. -/
theorem readBack_escapeChar (c : Char) (s : List Char) :
    readBack (escapeChar c ++ s) = c :: readBack s := by
  unfold escapeChar
  split
  · exact readBack_unopened (by decide) s
  · exact readBack_unopened (by decide) s
  · exact readBack_unopened (by decide) s
  · exact readBack_unopened (by decide) s
  · next h₁ h₂ h₃ h₄ => exact readBack_plain (by simp_all [isPlain]) s

structure IsSilent (t : List Char) : Prop where
  token : IsTagToken t
  ne_open : Spoiler.openTag ≠ t
  ne_close : Spoiler.closeTag ≠ t

theorem readBack_silent {t : List Char} (ht : IsSilent t) (s : List Char) :
    readBack (t ++ s) = readBack s := by
  rw [readBack,withBars,replaceFrom_tag isTagToken_openTag ht.token ht.ne_open,
    replaceFrom_tag isTagToken_closeTag ht.token ht.ne_close,stripTags_tag ht.token]
  rfl

theorem readBack_bars (s : List Char) :
    CharRef.decodeText (stripTags (Spoiler.marker ++ withBars s)) =
      Spoiler.marker ++ readBack s := by
  rw [(scan_unopened (by decide) _).2,decodeText_plain (by decide)]
  rfl

/-- The tags of spoilers are read as bars. -/
theorem readBack_openTag (s : List Char) :
    readBack (Spoiler.openTag ++ s) = Spoiler.marker ++ readBack s := by
  rw [← readBack_bars,readBack,withBars_openTag]

theorem readBack_closeTag (s : List Char) :
    readBack (Spoiler.closeTag ++ s) = Spoiler.marker ++ readBack s := by
  rw [← readBack_bars,readBack,withBars_closeTag]

/-! ## Pieces in a row -/

/-- The first text is made of pieces that show the second: escaped characters, tags that show
nothing, and tags that show as bars. -/
inductive Shows : List Char → List Char → Prop
  | nil : Shows [] []
  | escaped (c : Char) {x t : List Char} : Shows x t → Shows (escapeChar c ++ x) (c :: t)
  | silent {tag x t : List Char} : IsSilent tag → Shows x t → Shows (tag ++ x) t
  | spoiler {tag x t : List Char} : tag = Spoiler.openTag ∨ tag = Spoiler.closeTag →
      Shows x t → Shows (tag ++ x) (Spoiler.marker ++ t)

namespace Shows
variable {x y t u : List Char}

theorem append (hx : Shows x t) (hy : Shows y u) : Shows (x ++ y) (t ++ u) := by
  induction hx with
  | nil => exact hy
  | escaped c _ ih => rw [List.append_assoc]; exact .escaped c ih
  | silent ht _ ih => rw [List.append_assoc]; exact .silent ht ih
  | spoiler ht _ ih => rw [List.append_assoc,List.append_assoc]; exact .spoiler ht ih

theorem readBack (h : Shows x t) : readBack x = t := by
  induction h with
  | nil => simp [Render.readBack,withBars,replaceFrom,stripTags,tokens,CharRef.decodeText,
      CharRef.replaceFrom]
  | escaped c _ ih => rw [readBack_escapeChar,ih]
  | silent ht _ ih => rw [readBack_silent ht,ih]
  | spoiler ht _ ih =>
    rcases ht with rfl | rfl
    · rw [readBack_openTag,ih]
    · rw [readBack_closeTag,ih]

end Shows

theorem shows_escape (s : List Char) : Shows (escape s) s := by
  induction s with
  | nil => exact .nil
  | cons c s ih => exact .escaped c ih

/-- Text is escaped exactly once: decoding gives it back, also where it holds what looks like a
reference. -/
theorem decodeText_escape (s : List Char) : CharRef.decodeText (escape s) = s := by
  have h := readBack_unopened (prose_escape s).opener_notMem []
  have hn : stripTags (withBars []) = [] := by simp [withBars,replaceFrom,stripTags,tokens]
  rw [List.append_nil,hn,List.append_nil,(shows_escape s).readBack] at h
  exact h.symm

/-! ## Tags of elements -/

theorem silent_of_opens {tag : OpenTag} (h : Opens tag) (hs : tag.name ≠ "tg-spoiler".toList) :
    IsSilent tag.text ∧ IsSilent (closingTag tag) := by
  have hp := proper_of_opens h
  have hc := isTagToken_closingTag hp.name
  cases h with
  | bare ht =>
    have hb : ∀ tag ∈ bareTags, tag.name ≠ "tg-spoiler".toList →
        (Spoiler.openTag ≠ tag.text ∧ Spoiler.closeTag ≠ tag.text) ∧
          Spoiler.openTag ≠ closingTag tag ∧ Spoiler.closeTag ≠ closingTag tag := by decide
    obtain ⟨h₁,h₂⟩ := hb _ ht hs
    exact ⟨⟨hp.token,h₁.1,h₁.2⟩,⟨hc,h₂.1,h₂.2⟩⟩
  | @valued head value hh hv =>
    have hb : ∀ head ∈ tagHeads,
        Spoiler.openTag ≠ closingTag head ∧ Spoiler.closeTag ≠ closingTag head := by decide
    -- A tag with a value has quotation marks, unlike the tags of spoilers.
    have hq : '"' ∈ (withValue head value).text :=
      List.mem_append_right (head.text ++ value) (by decide)
    exact ⟨⟨hp.token,fun e => absurd (e ▸ hq) (by decide),fun e => absurd (e ▸ hq) (by decide)⟩,
      ⟨hc,(hb head hh).1,(hb head hh).2⟩⟩

/-! ## Spoilers -/

theorem bar_mem_escapeChar {c : Char} (h : '|' ∈ escapeChar c) : c = '|' := by
  unfold escapeChar at h
  split at h
  · exact absurd h (by decide)
  · exact absurd h (by decide)
  · exact absurd h (by decide)
  · exact absurd h (by decide)
  · exact (List.mem_singleton.mp h).symm

/-- Bars are not escaped, so a bar in an escaped text is one of the text. -/
theorem escape_eq_bar {v x y : List Char} (h : escape v = x ++ '|' :: y) :
    ∃ b r, v = b ++ '|' :: r ∧ x = escape b ∧ y = escape r := by
  induction v generalizing x with
  | nil => simp [escape] at h
  | cons c v ih =>
    rcases List.append_eq_append_iff.mp (show escapeChar c ++ escape v = _ from h) with
      ⟨u,rfl,hu⟩ | ⟨u,hc,hu⟩
    · obtain ⟨b,r,rfl,rfl,rfl⟩ := ih hu
      exact ⟨c :: b,r,rfl,rfl,rfl⟩
    · cases u with
      | nil =>
        obtain ⟨b,r,rfl,hb,rfl⟩ := ih (x := []) hu.symm
        rw [List.append_nil] at hc
        refine ⟨c :: b,r,rfl,?_,rfl⟩
        rw [escape,List.flatMap_cons,← escape,← hb,hc,List.append_nil]
      | cons d u =>
        obtain ⟨rfl,rfl⟩ := List.cons.inj hu
        obtain rfl := bar_mem_escapeChar (c := c) (by rw [hc]; simp)
        obtain ⟨rfl,hu⟩ | ⟨-,hu⟩ := List.singleton_eq_append_iff.mp hc
        · obtain ⟨-,rfl⟩ := List.cons.inj hu
          exact ⟨[],v,rfl,rfl,rfl⟩
        · cases hu

theorem escape_eq_nil {v : List Char} (h : escape v = []) : v = [] := by
  cases v with
  | nil => rfl
  | cons c v =>
    rw [escape,List.flatMap_cons,List.append_eq_nil_iff] at h
    have hc := h.1
    unfold escapeChar at hc
    split at hc <;> exact absurd hc (by simp)

/-- A cut of an escaped text is a cut of the text. -/
theorem escape_eq_marker {v x y : List Char} (h : escape v = x ++ Spoiler.marker ++ y) :
    ∃ b r, v = b ++ Spoiler.marker ++ r ∧ x = escape b ∧ y = escape r := by
  rw [List.append_assoc] at h
  obtain ⟨b,r,rfl,hb,hr⟩ := escape_eq_bar (x := x) h
  obtain ⟨b',r',rfl,hb',hr'⟩ := escape_eq_bar (x := []) hr.symm
  obtain rfl := escape_eq_nil hb'.symm
  exact ⟨b,r',by simp [Spoiler.marker],hb,hr'⟩

/-- Whatever text was passed before it, escaped text with its spoilers tagged shows the text. -/
theorem shows_hideAfter (seen s : List Char) :
    ∀ v, s = escape v → Shows (Spoiler.hideAfter seen s) v := by
  fun_induction Spoiler.hideAfter seen s with
  | case1 => exact fun v h => h ▸ shows_escape v
  | case2 => exact fun v h => h ▸ shows_escape v
  | case3 seen s before rest h₁ hidden after h₂ told passed shown ih =>
    intro v h
    rw [Spoiler.cut?_eq h₁] at h
    obtain ⟨b,r,rfl,rfl,hr⟩ := escape_eq_marker h.symm
    rw [Spoiler.cut?_eq h₂] at hr
    obtain ⟨w,a,rfl,hw,ha⟩ := escape_eq_marker hr.symm
    have hs : Shows shown (Spoiler.marker ++ w ++ Spoiler.marker) := by
      unfold shown
      rw [hw]
      split_ifs
      · have he := shows_escape (Spoiler.marker ++ w ++ Spoiler.marker)
        rwa [escape_append,escape_append] at he
      · have he := (shows_escape w).append (.spoiler (.inr rfl) .nil)
        simpa only [List.append_assoc,List.append_nil] using Shows.spoiler (.inl rfl) he
    have he := ((shows_escape b).append hs).append (ih a ha)
    simpa only [List.append_assoc] using he

end ChatMarkup.Render
