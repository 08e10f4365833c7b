import ChatMarkup.Markup.Truncate
import ChatMarkup.Proofs.Markup.Nesting
import ChatMarkup.Proofs.Markup.Partition
import ChatMarkup.Proofs.Text.Trim

/-!
# Messages are well formed

Cutting a well-formed markup down to a budget leaves a well-formed markup, and so does splitting it
into messages. A piece between clean boundaries is a segment of the whole. What is opened again
before it takes no open element to those that are open there, and what is closed behind it takes
these back to none. Trimming blanks at the end of a kept part moves its end to a clean boundary.
-/
namespace ChatMarkup.Markup
open Text

/-! ## Splitting -/

/-- The message of a piece of a well-formed markup. -/
theorem wellFormed_message {before piece after : List Char}
    (h : WellFormed (before ++ (piece ++ after))) (hb : Clean before (piece ++ after))
    (ha : Clean (before ++ piece) after) :
    WellFormed (balance (openingTags (openTags before) ++ piece)) := by
  obtain ⟨b,h₁,h₂⟩ := ((wellFormed_iff _).mp h).split hb
  have hp : Clean piece after := ha.mono (List.suffix_append before piece) (List.prefix_refl _)
  obtain ⟨c,h₃,-⟩ := h₂.split hp
  have ho := clean_openingTags (openTags_proper before) piece
  exact (h₁.reopened.append h₃ ho).balance

theorem wellFormed_messages {s : List Char} (h : WellFormed s) {before : List Char}
    {pieces : List (List Char)} (hs : before ++ pieces.flatten = s)
    (hc : ∀ xs ys, pieces = xs ++ ys → Clean (before ++ xs.flatten) ys.flatten) :
    ∀ message ∈ messages before pieces, WellFormed message := by
  induction pieces generalizing before with
  | nil => simp [messages]
  | cons piece pieces ih =>
    intro message hm
    rcases List.mem_cons.mp hm with rfl | hm
    · have hb := hc [] (piece :: pieces) rfl
      have ha := hc [piece] pieces rfl
      rw [← hs,List.flatten_cons] at h
      exact wellFormed_message h (by simpa using hb) (by simpa using ha)
    · refine ih (by simpa using hs) (fun xs ys hxy => ?_) message hm
      simpa using hc (piece :: xs) ys (by rw [hxy]; rfl)

/-! ## Truncation -/

theorem prefix_fitting (budget : ℕ) (ts : List (List Char)) : fitting budget ts <+: ts := by
  induction ts generalizing budget with
  | nil => exact List.prefix_refl _
  | cons t ts ih =>
    unfold fitting
    split_ifs
    · exact (List.prefix_cons_inj t).mpr (ih _)
    · exact List.nil_prefix

theorem prefix_upToSafeBoundary (ts : List (List Char)) : upToSafeBoundary ts <+: ts := by
  unfold upToSafeBoundary
  split
  · exact List.prefix_refl ts
  · have h : ts.reverse.dropWhile (fun t => !isSafeBoundary t) <:+ ts.reverse :=
      List.dropWhile_suffix _
    simpa using List.reverse_prefix.mpr h

theorem dropDanglingTag_eq {s : List Char} (h : '<' ∉ stripTags s) : dropDanglingTag s = s := by
  unfold dropDanglingTag
  split
  · next i hi =>
    obtain ⟨a,b,rfl,-,hb,-⟩ := danglingIndex?_eq_some (by decide) hi
    exact absurd (opener_mem_stripTags a hb) h
  · rfl

/-- The kept part of a well-formed markup is a segment of it. -/
theorem segment_keptPart {s : List Char} (h : WellFormed s) (budget : ℕ) :
    ∃ b, Segment [] (keptPart budget s) b := by
  have hp := (prefix_upToSafeBoundary (fitting budget (tokens s))).trans (prefix_fitting budget _)
  unfold keptPart
  generalize upToSafeBoundary (fitting budget (tokens s)) = kept at hp
  obtain ⟨after,ha⟩ := hp
  have hs := (wellFormed_iff s).mp h
  rw [← flatten_tokens s,← ha,List.flatten_append] at hs
  obtain ⟨b,hk,-⟩ := hs.split (clean_tokens ha.symm)
  rw [dropDanglingTag_eq hk.brackets]
  obtain ⟨blanks,he,hb⟩ := exists_trimEnd kept.flatten
  rw [he] at hk
  have hc : Clean (trimEnd kept.flatten) blanks := by
    apply Clean.before_text
    · exact fun hm => absurd (hb _ hm) (by decide)
    · exact fun hm => absurd (hb _ hm) (by decide)
  obtain ⟨b',hr,-⟩ := hk.split hc
  exact ⟨b',hr⟩

theorem wellFormed_withMarker {s : List Char} (h : WellFormed s) : WellFormed (withMarker s) := by
  unfold withMarker
  split_ifs
  · exact h
  · have hm := segment_text (s := truncationMarker) (by decide) (by decide) []
    have hc : Clean s truncationMarker := Clean.before_text s (by decide) (by decide)
    exact (wellFormed_iff _).mpr (((wellFormed_iff s).mp h).append hm hc)

theorem wellFormed_truncate {s : List Char} (h : WellFormed s) (budget : ℕ) :
    WellFormed (truncate budget s) := by
  unfold truncate
  split_ifs
  · exact h
  · obtain ⟨b,hb⟩ := segment_keptPart h budget
    exact wellFormed_withMarker hb.balance

theorem wellFormed_split {s : List Char} (h : WellFormed s) (budget : ℕ) :
    ∀ message ∈ split budget s, WellFormed message := by
  intro message hm
  rw [split_eq_messages] at hm
  refine wellFormed_messages h (flatten_pieces budget s) (fun xs ys hp => ?_) message
    (List.mem_filter.mp hm).1
  exact clean_pieces budget s hp

/-- A well-formed markup stays so when it is truncated, and so is each message that it is split
into. -/
theorem wellFormed_truncate_and_split {s : List Char} (h : WellFormed s) (budget : ℕ) :
    WellFormed (truncate budget s) ∧ ∀ message ∈ split budget s, WellFormed message :=
  ⟨wellFormed_truncate h budget,wellFormed_split h budget⟩

/-- Nested tags and a reference, cut in the middle. -/
theorem wellFormed_cut_nested :
    WellFormed "<b>one</b> <i>two &amp; <b>three</b></i>".toList ∧
      WellFormed (truncate 16 "<b>one</b> <i>two &amp; <b>three</b></i>".toList) ∧
      ∀ message ∈ split 16 "<b>one</b> <i>two &amp; <b>three</b></i>".toList,
        WellFormed message := by
  have h : WellFormed "<b>one</b> <i>two &amp; <b>three</b></i>".toList := by decide +kernel
  exact ⟨h,wellFormed_truncate_and_split h 16⟩

end ChatMarkup.Markup
