import ChatMarkup.Proofs.Render.Grammar
import ChatMarkup.Render.Node

/-!
# Content of pieces

What the renderer makes of texts, addresses and labels is content, and so is what it makes of rows
of contents. Two of the pieces do not come from escaping alone. Spoilers are tagged in text that is
escaped already, between bars, and no reference holds a bar. The label of a custom emoji is not
escaped at all, but an emoji is no character of a tag, and neither are blanks.
-/
namespace ChatMarkup.Render
open Text Markup

/-! ## Spoilers -/

/-- Prose comes apart at a character that no reference holds. -/
theorem Prose.split {c : Char} (hc : ∀ r ∈ references, c ∉ r) {x y : List Char}
    (h : Prose (x ++ c :: y)) : Prose x ∧ Prose y := by
  generalize hs : x ++ c :: y = s at h
  induction h generalizing x with
  | nil => simp at hs
  | @plain d s hd hp ih =>
    cases x with
    | nil =>
      obtain ⟨-,rfl⟩ := List.cons.inj hs
      exact ⟨.nil,hp⟩
    | cons e x =>
      obtain ⟨rfl,ht⟩ := List.cons.inj hs
      obtain ⟨hx,hy⟩ := ih ht
      exact ⟨.plain hd hx,hy⟩
  | @reference r s hr _ ih =>
    rcases List.append_eq_append_iff.mp hs with ⟨u,hu,hs⟩ | ⟨v,hv,hs⟩
    · cases u with
      | nil =>
        obtain ⟨-,hy⟩ := ih (x := []) (by simpa using hs)
        rw [List.append_nil] at hu
        exact ⟨hu ▸ prose_reference hr,hy⟩
      | cons e u =>
        -- The character would stand inside of the reference.
        obtain ⟨rfl,-⟩ := List.cons.inj hs
        exact absurd (by rw [hu]; simp) (hc r hr)
    · obtain ⟨hx,hy⟩ := ih hs.symm
      exact ⟨hv ▸ .reference hr hx,hy⟩

/-- Tagging spoilers makes content of prose, whatever text was passed before it. -/
theorem content_hideAfter {seen s : List Char} (h : Prose s) :
    Content (Spoiler.hideAfter seen s) := by
  have hbar : ∀ r ∈ references, '|' ∉ r := by decide
  fun_induction Spoiler.hideAfter seen s with
  | case1 seen s _ => exact h.content
  | case2 seen s before rest _ _ => exact h.content
  | case3 seen s before rest h₁ hidden after h₂ told passed shown ih =>
    have e₁ := Spoiler.cut?_eq h₁
    have e₂ := Spoiler.cut?_eq h₂
    subst e₁ e₂
    -- The four bars take the text apart: before them, hidden between them, and behind them.
    obtain ⟨hb,hr⟩ := Prose.split (x := before) hbar (by simpa [Spoiler.marker] using h)
    obtain ⟨-,hr⟩ := Prose.split (x := []) hbar hr
    obtain ⟨hh,ha⟩ := Prose.split (x := hidden) hbar hr
    obtain ⟨-,ha⟩ := Prose.split (x := []) hbar ha
    have hm : Prose Spoiler.marker := prose_of_plain (by decide)
    have hs : Content shown := by
      unfold shown
      split_ifs
      · exact ((hm.append hh).append hm).content
      · exact Content.bare ⟨"tg-spoiler".toList,Spoiler.openTag⟩ [] (by decide) rfl rfl .nil
          hh.content
    exact (hb.content.append hs).append (ih ha)

theorem content_textMarkup (s : List Char) : Content (textMarkup s) :=
  content_hideAfter (prose_escape s)

/-! ## Labels of custom emoji -/

/-- A test that fails for the reserved characters holds of plain characters only. -/
theorem isPlain_of {p : Char → Bool} (hp : ['&','<','>','"'].any p = false) {c : Char}
    (h : p c = true) : isPlain c = true := by
  by_contra hc
  have hm : c ∈ ['&','<','>','"'] := by
    simp only [isPlain,Bool.and_eq_true,bne_iff_ne] at hc
    simp only [List.mem_cons,List.not_mem_nil,or_false]
    tauto
  exact absurd (List.any_eq_true.mpr ⟨c,hm,h⟩) (by simp only [hp,Bool.false_eq_true,not_false_iff])

theorem isPlain_of_isBlank {c : Char} (h : isBlank c = true) : isPlain c = true :=
  isPlain_of (by decide) h

/-- No character of an emoji is reserved. -/
theorem isPlain_of_isSingleEmoji {s : List Char} (h : isSingleEmoji s = true) :
    ∀ c ∈ s, isPlain c = true := by
  unfold isSingleEmoji at h
  split at h
  · next c =>
    intro d hd
    rw [List.mem_singleton.mp hd]
    exact isPlain_of (p := fun c => inRanges emojiPresentationRanges c.toNat) (by decide) h
  · next c v =>
    rw [Bool.and_eq_true,beq_iff_eq] at h
    intro d hd
    rcases List.mem_pair.mp hd with rfl | rfl
    · exact isPlain_of (p := fun c => inRanges emojiRanges c.toNat) (by decide) h.2
    · rw [h.1]
      decide
  · cases h

theorem prose_of_isEmojiLabel {s : List Char} (h : isEmojiLabel s = true) : Prose s := by
  refine prose_of_plain (List.all_eq_true.mpr fun c hc => ?_)
  rcases mem_trim hc with hc | hc
  · exact isPlain_of_isSingleEmoji h c hc
  · exact isPlain_of_isBlank hc

/-! ## Leaves -/

theorem content_bold {inner : List Char} (h : Content inner) :
    Content ("<b>".toList ++ inner ++ "</b>".toList) :=
  Content.bare ⟨"b".toList,"<b>".toList⟩ [] (by decide) rfl rfl .nil h

theorem content_link (address : List Char) {shown : List Char} (h : Content shown) :
    Content ("<a href=\"".toList ++ escape address ++ "\">".toList ++ shown ++ "</a>".toList) :=
  Content.valued ⟨"a".toList,"<a href=\"".toList⟩ (by decide) rfl rfl (prose_escape address) h

theorem content_emojiMarkup (id : List Char) (alt : Option String) :
    Content (emojiMarkup id alt) := by
  unfold emojiMarkup
  refine Content.valued ⟨"tg-emoji".toList,"<tg-emoji emoji-id=\"".toList⟩ (by decide) rfl rfl
    (prose_escape id) ?_
  split_ifs with h
  · exact (prose_of_isEmojiLabel h).content
  · exact content_of_plain (by decide)

theorem content_imageLink (address : List Char) (alt : Option String) :
    Content (imageLink address alt) := by
  have ho : "<b><a href=\"".toList = "<b>".toList ++ "<a href=\"".toList := rfl
  have hc : "</a></b>".toList = "</a>".toList ++ "</b>".toList := rfl
  have hl := content_link address (prose_escape (orElseText alt defaultAlt)).content
  unfold imageLink
  rw [ho,hc]
  simpa only [List.append_assoc] using content_bold hl

theorem content_imageMarkup (address : List Char) (alt : Option String) :
    Content (imageMarkup address alt) := by
  unfold imageMarkup
  split
  · exact content_emojiMarkup ..
  · exact content_imageLink address alt

theorem content_preformatted {inner : List Char} (h : Content inner) :
    Content ("<pre>".toList ++ inner ++ "</pre>\n".toList) :=
  Content.bare ⟨"pre".toList,"<pre>".toList⟩ ['\n'] (by decide) rfl rfl
    (prose_of_plain (by decide)) h

theorem content_code (s : List Char) :
    Content ("<code>".toList ++ escape s ++ "</code>".toList) :=
  Content.bare ⟨"code".toList,"<code>".toList⟩ [] (by decide) rfl rfl .nil
    (prose_escape s).content

/-- A block of code is an element of code, with its language or without, in one that keeps it as it
stands. -/
theorem codeBlock_eq (value : String) (lang info : Option String) :
    ∃ tag, Opens tag ∧ tag.name = "code".toList ∧ leafMarkup (.codeBlock value lang info) =
      wrap "<pre>" "</pre>\n" (tag.text ++ escape value.toList ++ closingTag tag) := by
  unfold leafMarkup wrap
  dsimp only
  generalize (lang.getD "").toList = name
  cases name with
  | nil =>
    refine ⟨⟨"code".toList,"<code>".toList⟩,.bare (by decide),rfl,?_⟩
    simp [closingTag]
  | cons c name =>
    refine ⟨withValue ⟨"code".toList,"<code class=\"language-".toList⟩ (escape (c :: name)),
      .valued (by decide) (prose_escape _),rfl,?_⟩
    simp [closingTag,withValue]

theorem content_codeBlock (value : String) (lang info : Option String) :
    Content (leafMarkup (.codeBlock value lang info)) := by
  obtain ⟨tag,ht,-,he⟩ := codeBlock_eq value lang info
  have hc := Content.element ht (prose_escape value.toList).content .nil
  rw [List.append_nil] at hc
  rw [he]
  exact content_preformatted hc

theorem content_leafMarkup (kind : Leaf) : Content (leafMarkup kind) := by
  cases kind with
  | text value => exact content_textMarkup value.toList
  | code value => exact content_code value.toList
  | codeBlock value lang info => exact content_codeBlock value lang info
  | image url alt title => exact content_imageMarkup url.toList alt
  | lineBreak => exact content_of_plain (by decide)
  | thematicBreak => exact content_of_plain (by decide)

/-! ## Items -/

theorem prose_bullet : Prose bullet := prose_of_plain (by decide)

theorem content_indentUnit : Content indentUnit := by
  have he : indentUnit = (List.replicate 4 "&#160;".toList).flatten := rfl
  rw [he]
  apply Content.flatten
  intro r hr
  rw [List.eq_of_mem_replicate hr]
  exact (prose_reference (by decide)).content

theorem content_indentation (depth : ℤ) : Content (indentation depth) := by
  apply Content.flatten
  intro unit hu
  rw [List.eq_of_mem_replicate hu]
  exact content_indentUnit

/-- A number has digits and a sign. -/
theorem prose_number (n : ℤ) : Prose (toString n).toList := by
  have hd (k : ℕ) : Prose k.repr.toList := by
    rw [Nat.toList_repr]
    refine prose_of_plain (List.all_eq_true.mpr fun c hc => ?_)
    exact isPlain_of (by decide) (Nat.isDigit_of_mem_toDigits (by decide) (by decide) hc)
  rw [Int.toString_eq_repr,Int.repr_eq_if]
  split_ifs
  · exact hd _
  · rw [String.toList_append]
    exact Prose.append (prose_of_plain (by decide)) (hd _)

theorem prose_marker (numbering : Option Numbering) : Prose (marker numbering) := by
  unfold marker
  split
  · exact prose_bullet
  · split_ifs
    · exact (prose_number _).append (prose_of_plain (by decide))
    · exact prose_bullet

/-! ## Tables -/

theorem content_codeBlockTable (rows : List Node) : Content (codeBlockTable rows) := by
  unfold codeBlockTable preformatted
  split
  · exact .nil
  · have ho : "<pre><code>".toList = "<pre>".toList ++ "<code>".toList := rfl
    have hc : "</code></pre>\n".toList = "</code>".toList ++ "</pre>\n".toList := rfl
    rw [ho,hc]
    simpa only [List.append_assoc] using content_preformatted (content_code _)

theorem content_boldLabel {label : List Char} (h : Content label) :
    ∀ piece ∈ boldLabel label, Content piece := by
  unfold boldLabel
  split_ifs
  · simp
  · intro piece hp
    rw [List.mem_singleton.mp hp]
    exact content_bold h

/-- A value of a row with the name of its column. -/
theorem content_entry {name value : List Char} (hn : Content name) (hv : Content value) :
    Content (if name.isEmpty then value else name ++ ": ".toList ++ value) := by
  split_ifs
  · exact hv
  · exact (hn.append (content_of_plain (by decide))).append hv

theorem content_rowLines (mode : TableMode) {names values : List (List Char)}
    (hn : ∀ name ∈ names, Content name) (hv : ∀ value ∈ values, Content value) :
    ∀ line ∈ rowLines mode names values, Content line := by
  have hs : Prose cellSeparator := prose_of_plain (by decide)
  have hb : Content bullet := prose_bullet.content
  cases values with
  | nil => simp [rowLines]
  | cons label rest =>
    have hl := content_boldLabel (hv label (by simp))
    have hr : ∀ value ∈ rest, Content value := fun v hm => hv v (List.mem_cons_of_mem label hm)
    unfold rowLines
    dsimp only
    split_ifs
    · simp
    · split
      · intro line hm
        rw [List.mem_singleton.mp hm]
        refine hb.append (Content.intercalate hs fun piece hp => ?_)
        rcases List.mem_append.mp hp with hp | hp
        · exact hl piece hp
        · exact hr piece (List.mem_of_mem_filter hp)
      · intro line hm
        rcases List.mem_cons.mp hm with rfl | hm
        · exact hb.append (Content.flatten hl)
        · obtain ⟨⟨value,column⟩,hz,he⟩ := List.mem_filterMap.mp hm
          have hval := hr value (List.fst_mem_of_mem_zipIdx hz)
          have hname : Content (names[column]?.getD []) := by
            cases hg : names[column]? with
            | none => exact .nil
            | some name => exact hn name (List.mem_of_getElem? hg)
          dsimp only at he
          split at he
          · cases he
          · cases he
            exact (content_indentUnit.append hb).append (content_entry hname hval)

/-- The header and the data rows of a table are rows of it. -/
theorem splitHeader_subset {α : Type} (rows : List (List α)) :
    (∀ x ∈ (splitHeader rows).1, ∃ row ∈ rows, x ∈ row) ∧ (splitHeader rows).2 ⊆ rows := by
  unfold splitHeader
  split
  · simp
  · simp
  · next header rows _ =>
    exact ⟨fun x hx => ⟨header,by simp,hx⟩,List.subset_cons_self header rows⟩

theorem content_listTable (mode : TableMode) (includeHeaders : Bool)
    {rows : List (List (List Char))} (h : ∀ row ∈ rows, ∀ cell ∈ row, Content cell) :
    Content (listTable mode includeHeaders rows) := by
  have ht : ∀ row ∈ rows.map fun row => row.map trim, ∀ cell ∈ row, Content cell := by
    intro row hr cell hc
    obtain ⟨row',hr',rfl⟩ := List.mem_map.mp hr
    obtain ⟨cell',hc',rfl⟩ := List.mem_map.mp hc
    exact (h row' hr' cell' hc').trim
  obtain ⟨hh,hd⟩ := splitHeader_subset (rows.map fun row => row.map trim)
  unfold listTable listed
  dsimp only
  generalize splitHeader (rows.map fun row => row.map trim) = parts at hh hd
  have hn : ∀ name ∈ if includeHeaders then parts.1 else [], Content name := by
    intro name hm
    split_ifs at hm
    · obtain ⟨row,hr,hx⟩ := hh name hm
      exact ht row hr name hx
    · simp at hm
  have hl : ∀ line ∈ parts.2.flatMap (rowLines mode (if includeHeaders then parts.1 else [])),
      Content line := by
    intro line hm
    obtain ⟨row,hr,hm⟩ := List.mem_flatMap.mp hm
    exact content_rowLines mode hn (ht row (hd hr)) line hm
  split
  · exact .nil
  · have hs : Prose ['\n'] := prose_of_plain (by decide)
    exact (Content.intercalate hs hl).trimEnd.append (content_of_plain (by decide))

end ChatMarkup.Render
