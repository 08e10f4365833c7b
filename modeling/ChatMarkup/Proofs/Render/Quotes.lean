import ChatMarkup.Proofs.Render.Writing
import ChatMarkup.Proofs.Text.Trim
import ChatMarkup.Proofs.Tree.LastText

/-!
# The marker at the end of a quote

A quote whose text ends in the marker of spoilers, up to blanks, is shown without a marker. Which
one is left out is up to the texts of the quote alone: it is the one at the end of the last text
that ends in a marker. This is the marker at the end of the quote if nothing comes after this text
but bars and then blanks. Where code comes last, or a blank in the last text, it is another marker
or none.
-/
namespace ChatMarkup.Render
open Text Node

/-! ## Markers and blanks -/

/-- Only bars look the same in front of a marker and after it. -/
theorem append_marker_eq_iff {s : List Char} :
    s ++ Spoiler.marker = Spoiler.marker ++ s ↔ ∀ c ∈ s, c = '|' := by
  constructor
  · induction s using List.twoStepInduction with
    | nil => simp
    | singleton c =>
      intro h
      simpa [Spoiler.marker] using (List.cons.inj h).1
    | cons_cons c d s ih _ =>
      intro h
      simp only [Spoiler.marker,List.cons_append,List.nil_append,List.cons.injEq] at h
      obtain ⟨rfl,rfl,hs⟩ := h
      simpa using ih hs
  · intro h
    induction s with
    | nil => rfl
    | cons c s ih =>
      obtain ⟨rfl,hs⟩ := List.forall_mem_cons.mp h
      rw [List.cons_append,ih hs]
      rfl

structure EndsMarked (front blanks text : List Char) : Prop where
  eq : text = front ++ Spoiler.marker ++ blanks
  blank : ∀ c ∈ blanks, isBlank c = true

section
variable {text front front' blanks blanks' : List Char}

theorem EndsMarked.trimEnd (h : EndsMarked front blanks text) :
    trimEnd text = front ++ Spoiler.marker := by
  have hb : Text.trimEnd blanks = [] := by simpa [Text.trimEnd,dropEnd] using h.blank
  have hm := trimEnd_concat (c := '|') (by decide) (front ++ ['|'])
  rw [h.eq,trimEnd_append,hb,if_pos List.isEmpty_nil]
  simpa [Spoiler.marker] using hm

theorem EndsMarked.unique (h : EndsMarked front blanks text)
    (h' : EndsMarked front' blanks' text) : front = front' ∧ blanks = blanks' := by
  have hf := List.append_cancel_right (h.trimEnd.symm.trans h'.trimEnd)
  subst hf
  exact ⟨rfl,List.append_cancel_left (h.eq.symm.trans h'.eq)⟩

theorem EndsMarked.trimStart (h : EndsMarked front blanks text) :
    ∃ front', EndsMarked front' blanks (trimStart text) := by
  have hm : Text.trimStart (Spoiler.marker ++ blanks) = Spoiler.marker ++ blanks := rfl
  rw [h.eq,List.append_assoc,trimStart_append,hm]
  split_ifs
  · exact ⟨[],rfl,h.blank⟩
  · exact ⟨Text.trimStart front,(List.append_assoc _ _ _).symm,h.blank⟩

theorem endsInMarker_iff :
    endsInMarker text = true ↔ ∃ front blanks, EndsMarked front blanks text := by
  simp only [endsInMarker,endsWith,List.isSuffixOf_iff_suffix]
  constructor
  · rintro ⟨s,hs⟩
    obtain ⟨b,hb,-⟩ := exists_trimStart text
    obtain ⟨b',hb',hn⟩ := exists_trimEnd (trimStart text)
    refine ⟨b ++ s,b',?_,hn⟩
    rw [List.append_assoc b s,hs,trim,List.append_assoc,← hb',← hb]
  · rintro ⟨front,blanks,h⟩
    obtain ⟨front',h'⟩ := h.trimStart
    exact ⟨front',h'.trimEnd.symm⟩

/-- Without one of its markers, a text is what it is without the last one if and only if there are
only bars and then blanks after the marker. -/
theorem EndsMarked.without_iff {before after : List Char} (h : EndsMarked front blanks text)
    (ht : text = before ++ Spoiler.marker ++ after) :
    before ++ after = front ++ blanks ↔ ∃ bars spaces, after = bars ++ spaces ∧
      (∀ c ∈ bars, c = '|') ∧ ∀ c ∈ spaces, isBlank c = true := by
  constructor
  · intro he
    -- The marker stands in front of the last one, with `s` between, or what is after it is blank.
    rcases List.append_eq_append_iff.mp he with ⟨s,rfl,rfl⟩ | ⟨s,rfl,rfl⟩
    · refine ⟨s,blanks,rfl,append_marker_eq_iff.mp ?_,h.blank⟩
      have hs := h.eq.symm.trans ht
      simp only [List.append_assoc] at hs
      simpa only [← List.append_assoc,List.append_cancel_right_eq] using
        List.append_cancel_left hs
    · exact ⟨[],after,rfl,by simp,fun c hc => h.blank c (List.mem_append_right s hc)⟩
  · rintro ⟨bars,spaces,rfl,hb,hs⟩
    have hm : EndsMarked (before ++ bars) spaces text := by
      refine ⟨?_,hs⟩
      rw [ht,List.append_assoc before bars,append_marker_eq_iff.mpr hb]
      simp only [List.append_assoc]
    obtain ⟨rfl,rfl⟩ := h.unique hm
    rw [List.append_assoc]

end

/-! ## What a quote shows -/

inductive Shown (quote : Node) : Node → Prop
  | unmarked : endsInMarker quote.rawText = false → Shown quote quote
  | whole : endsInMarker quote.rawText = true →
      (∀ place, ¬EndsAt Spoiler.marker quote place) → Shown quote quote
  | cut {path : List ℕ} {shown : Node} : endsInMarker quote.rawText = true →
      IsLastText Spoiler.marker quote path → LosesEnding Spoiler.marker path quote shown →
      Shown quote shown

theorem shown_withoutMarker (quote : Node) : Shown quote (withoutMarker quote) := by
  cases he : endsInMarker quote.rawText with
  | false =>
    rw [withoutMarker,if_neg (by simp [he])]
    exact .unmarked he
  | true =>
    rw [withoutMarker,if_pos he]
    cases hp : quote.lastTextPath? Spoiler.marker with
    | none => exact .whole he (lastTextPath?_eq_none_iff.mp hp)
    | some path =>
      obtain ⟨m,hm⟩ := exists_cutTextAt hp Spoiler.marker.length
      have hl := lastTextPath?_eq_some_iff.mp hp
      dsimp only
      rw [hm]
      exact .cut he hl (losesEnding_cutTextAt hl.ends hm)

theorem Shown.unique {quote n m : Node} (hn : Shown quote n) (hm : Shown quote m) : n = m := by
  cases hn with
  | unmarked he =>
    cases hm with
    | unmarked => rfl
    | whole => rfl
    | cut he' => rw [he] at he'; cases he'
  | whole he ha =>
    cases hm with
    | unmarked => rfl
    | whole => rfl
    | cut _ hl _ => exact absurd hl.ends (ha _)
  | cut he hl hc =>
    cases hm with
    | unmarked he' => rw [he] at he'; cases he'
    | whole _ ha => exact absurd hl.ends (ha _)
    | cut _ hl' hc' =>
      obtain rfl := hl.unique hl'
      exact hc.unique hc'

/-- A quote is written with the children of the tree that it shows. -/
theorem Shown.writeNode {cs : List Node} {md : List (String × Value)} {shown : Node}
    (h : Shown (.container .blockQuote cs md) shown) (context : RenderContext) :
    writeNode context (.container .blockQuote cs md) =
      (writeRow context shown).map (encloseQuote (Node.container .blockQuote cs md).rawText) := by
  rw [writeNode_quote,h.unique (shown_withoutMarker _)]

/-- Of a quote that ends in a marker, the text is shown without this marker and otherwise as it is
if and only if bars and blanks are all there is after the last text that ends in a marker. -/
theorem Shown.rawText_iff {quote shown : Node} {front blanks : List Char} (h : Shown quote shown)
    (hm : EndsMarked front blanks quote.rawText) :
    shown.rawText = front ++ blanks ↔
      ∃ path, IsLastText Spoiler.marker quote path ∧ ∃ bars spaces,
        quote.textAfter path = bars ++ spaces ∧
        (∀ c ∈ bars, c = '|') ∧ ∀ c ∈ spaces, isBlank c = true := by
  have he := endsInMarker_iff.mpr ⟨front,blanks,hm⟩
  cases h with
  | unmarked hf => rw [he] at hf; cases hf
  | whole _ hn =>
    rw [hm.eq]
    constructor
    · intro hc
      have hl := congrArg List.length hc
      simp only [List.length_append,Spoiler.marker,List.length_cons] at hl
      omega
    · rintro ⟨path,hl,-⟩
      exact absurd hl.ends (hn path)
  | cut _ hl hc =>
    obtain ⟨kept,hq,hw⟩ := hc.rawText
    rw [hw,hm.without_iff (by rw [hq]; simp only [List.append_assoc])]
    constructor
    · exact fun ha => ⟨_,hl,ha⟩
    · rintro ⟨path,hl',ha⟩
      rwa [hl.unique hl']

/-- A quote that ends in code, after a text that ends in a marker. -/
def codeQuote : Node :=
  .container .blockQuote [.container .paragraph [text "a||",.leaf (.code "b||") []] []] []

/-- The marker that is left out is not the one at the end. -/
theorem rawText_shown_codeQuote {shown : Node} (h : Shown codeQuote shown) :
    codeQuote.rawText = "a||b||".toList ∧ shown.rawText = "ab||".toList := by
  rw [h.unique (shown_withoutMarker codeQuote)]
  exact ⟨rfl,rfl⟩

end ChatMarkup.Render
