import ChatMarkup.Proofs.Render.ReadBack
import ChatMarkup.Proofs.SourceTable.Segments
import ChatMarkup.Render.Table

/-!
# Tables that are read back

A table that a message shows as preformatted text is a table of source text again: its lines begin
and end in bars, blanks stand on both sides of each cell, and a bar in a cell has a backslash before
it. So whatever the cells hold, also backslashes at their ends, the cells of each line are the texts
that the line was made from.
-/
namespace ChatMarkup.SourceTable
open Text Render Markup

def escapeBars (s : List Char) : List Char :=
  s.flatMap fun c => if c == '|' then ['\\','|'] else [c]

/-- A cell of a line, with a blank on both sides. -/
def padded (s : List Char) : List Char := ' ' :: s ++ [' ']

def separatorLine (n : ℕ) : List Char := sourceLine (List.replicate n "---".toList)

def rowLine (row : List Node) : List Char := sourceLine (row.map plainCell)

/-- The raw text of a cell, with single blanks between its words and none at its ends. -/
def cellText (cell : Node) : List Char := collapse cell.rawText

/-! ## Bars and backslashes -/

theorem splitBars_ne_nil (escaped : Bool) (s : List Char) : splitBars escaped s ≠ [] := by
  cases s with
  | nil => simp [splitBars]
  | cons c s =>
    rw [splitBars]
    split_ifs
    · simp
    · split <;> simp

theorem splitBars_cons {escaped : Bool} {c : Char} (h : (c == '|' && !escaped) = false)
    (s : List Char) :
    splitBars escaped (c :: s) = (splitBars (c == '\\') s).modifyHead (c :: ·) := by
  rw [splitBars,h,if_neg Bool.false_ne_true]
  cases hp : splitBars (c == '\\') s with
  | nil => exact absurd hp (splitBars_ne_nil _ s)
  | cons piece pieces => rfl

theorem splitBars_bar (s : List Char) : splitBars false ('|' :: s) = [] :: splitBars false s := rfl

/-- An escaped text with a blank behind it stays in one piece, whatever stands before it. -/
theorem splitBars_escapeBars (escaped : Bool) (s rest : List Char) :
    splitBars escaped (escapeBars s ++ ' ' :: rest) =
      (splitBars false rest).modifyHead (escapeBars s ++ ' ' :: ·) := by
  induction s generalizing escaped with
  | nil => exact splitBars_cons (by simp) rest
  | cons c s ih =>
    by_cases hc : c = '|'
    · subst hc
      have he : escapeBars ('|' :: s) = '\\' :: '|' :: escapeBars s := rfl
      rw [he,List.cons_append,List.cons_append,splitBars_cons (by simp),splitBars_cons (by simp),ih,
        List.modifyHead_modifyHead,List.modifyHead_modifyHead]
      rfl
    · have he : escapeBars (c :: s) = c :: escapeBars s := by simp [escapeBars,hc]
      rw [he,List.cons_append,splitBars_cons (by simp [hc]),ih,List.modifyHead_modifyHead]
      rfl

theorem splitBars_padded (s rest : List Char) :
    splitBars false (padded (escapeBars s) ++ rest) =
      (splitBars false rest).modifyHead (padded (escapeBars s) ++ ·) := by
  rw [padded,List.cons_append,List.cons_append,List.append_assoc,splitBars_cons (by simp),
    List.singleton_append,splitBars_escapeBars,List.modifyHead_modifyHead]
  simp [Function.comp_def]

theorem splitBars_intercalate {texts : List (List Char)} (hn : texts ≠ []) :
    splitBars false (['|'].intercalate (texts.map fun s => padded (escapeBars s))) =
      texts.map fun s => padded (escapeBars s) := by
  induction texts with
  | nil => exact absurd rfl hn
  | cons s texts ih =>
    cases texts with
    | nil =>
      have h := splitBars_padded s []
      rw [List.append_nil] at h
      simp [h,splitBars]
    | cons t texts =>
      simp only [List.map_cons] at ih ⊢
      rw [List.intercalate_cons_cons,List.append_assoc,List.singleton_append,splitBars_padded,
        splitBars_bar,ih (List.cons_ne_nil t texts),List.modifyHead_cons,List.append_nil]

theorem escapeBars_cons_of_ne {c : Char} (hc : c ≠ '|') (s : List Char) :
    escapeBars (c :: s) = c :: escapeBars s := by
  simp [escapeBars,hc]

theorem escapeBars_ne_bar (s rest : List Char) : escapeBars s ≠ '|' :: rest := by
  cases s with
  | nil => simp [escapeBars]
  | cons c s =>
    by_cases hc : c = '|'
    · subst hc
      simp [escapeBars]
    · rw [escapeBars_cons_of_ne hc]
      exact fun h => hc (List.cons.inj h).1

theorem unescapeBars_escapeBars (s : List Char) : unescapeBars (escapeBars s) = s := by
  induction s with
  | nil => rfl
  | cons c s ih =>
    by_cases hc : c = '|'
    · subst hc
      exact congrArg ('|' :: ·) ih
    · -- A backslash is kept: no bar stands behind it without a backslash of its own.
      rw [escapeBars_cons_of_ne hc,unescapeBars,ih]
      exact fun rest _ h => escapeBars_ne_bar s rest h

theorem trim_escapeBars {s : List Char} (h : trim s = s) : trim (escapeBars s) = escapeBars s := by
  have hs : trimStart (escapeBars s) = escapeBars s := by
    cases s with
    | nil => rfl
    | cons c s =>
      have hc := isBlank_head (trimStart_of_trim h)
      by_cases hb : c = '|'
      · subst hb
        rfl
      · rw [escapeBars_cons_of_ne hb,trimStart,List.dropWhile_cons_of_neg (by simp [hc])]
  have he : trimEnd (escapeBars s) = escapeBars s := by
    rcases List.eq_nil_or_concat' s with rfl | ⟨t,c,rfl⟩
    · rfl
    · have hc := isBlank_last (trimEnd_of_trim h)
      by_cases hb : c = '|'
      · subst hb
        have hl : escapeBars (t ++ ['|']) = (escapeBars t ++ ['\\']) ++ ['|'] := by
          simp [escapeBars]
        rw [hl,trimEnd_concat hc]
      · have hl : escapeBars (t ++ [c]) = escapeBars t ++ [c] := by simp [escapeBars,hb]
        rw [hl,trimEnd_concat hc]
  rw [trim,hs,he]

theorem trim_padded {s : List Char} (h : trim s = s) : trim (padded s) = s := by
  rw [padded,List.cons_append,trim_cons_blank (by decide),trim_concat_blank (by decide),h]

/-! ## Lines of tables -/

section
variable {texts : List (List Char)}

theorem padded_intercalate (hn : texts ≠ []) :
    padded (" | ".toList.intercalate texts) = ['|'].intercalate (texts.map padded) := by
  induction texts with
  | nil => exact absurd rfl hn
  | cons s texts ih =>
    cases texts with
    | nil => simp
    | cons t texts =>
      rw [List.map_cons,List.map_cons,List.intercalate_cons_cons,List.intercalate_cons_cons,
        ← List.map_cons,← ih (List.cons_ne_nil t texts)]
      simp [padded]

theorem sourceLine_eq (texts : List (List Char)) :
    sourceLine texts = '|' :: padded (" | ".toList.intercalate texts) ++ ['|'] := by
  simp [sourceLine,padded]

theorem trim_sourceLine (texts : List (List Char)) :
    trim (sourceLine texts) = sourceLine texts := by
  rw [sourceLine_eq,trim_between (by decide) (by decide)]

theorem withoutOuterBars_sourceLine (hn : texts ≠ []) :
    withoutOuterBars (sourceLine texts) = ['|'].intercalate (texts.map padded) := by
  have hb : endsWith ['|'] (padded (" | ".toList.intercalate texts) ++ ['|']) = true := by
    simp [endsWith,List.isSuffixOf]
  have he : endsWith ['\\','|'] (padded (" | ".toList.intercalate texts) ++ ['|']) = false := by
    simp [endsWith,List.isSuffixOf,List.isPrefixOf,padded]
  rw [← padded_intercalate hn,sourceLine_eq]
  unfold withoutOuterBars
  simp only [List.cons_append]
  rw [hb,he,Bool.not_false,Bool.and_self,if_pos rfl,List.dropLast_concat]

theorem cells_sourceLine (hn : texts ≠ []) (ht : ∀ s ∈ texts, trim s = s) :
    cells (sourceLine (texts.map escapeBars)) = texts := by
  have hp : (texts.map escapeBars).map padded = texts.map fun s => padded (escapeBars s) := by
    simp [Function.comp_def]
  rw [cells,trim_sourceLine,withoutOuterBars_sourceLine (by simpa using hn),hp,
    splitBars_intercalate hn,List.map_map]
  refine (List.map_congr_left fun s hs => ?_).trans (List.map_id texts)
  rw [Function.comp_apply,trim_padded (trim_escapeBars (ht s hs)),unescapeBars_escapeBars,id]

theorem isRow_sourceLine (texts : List (List Char)) : isRow (sourceLine texts) = true := by
  have hl := List.length_pos_of_ne_nil
    (splitBars_ne_nil false (padded (" | ".toList.intercalate texts) ++ ['|']))
  rw [isRow,trim_sourceLine,hasBar,sourceLine_eq,List.cons_append,splitBars_bar]
  simpa using hl

theorem isSeparator_separatorLine {n : ℕ} (hn : n ≠ 0) :
    isSeparator (separatorLine n) = true := by
  have hp : splitAt '|'
      (padded (" | ".toList.intercalate (List.replicate n "---".toList)) ++ ['|']) =
      List.replicate n (padded "---".toList) ++ [[]] := by
    rw [splitAt_append_cons,padded_intercalate (by simpa using hn),List.map_replicate,
      splitAt_intercalate]
    · rfl
    · intro piece hm
      rw [List.eq_of_mem_replicate hm]
      decide
    · simpa using hn
  have hc : isSeparatorCell (padded "---".toList) = true := by decide
  have hl : (trim ((List.replicate n (padded "---".toList) ++ [[]]).getLast?.getD [])).isEmpty =
      true := by
    rw [List.getLast?_concat]
    rfl
  unfold isSeparator separatorLine
  rw [trim_sourceLine,sourceLine_eq]
  simp only [List.cons_append]
  rw [hp,if_pos hl,List.dropLast_concat]
  generalize padded "---".toList = piece at hc
  simp [hn,hc]

theorem cells_separatorLine {n : ℕ} (hn : n ≠ 0) :
    cells (separatorLine n) = List.replicate n "---".toList := by
  have hd : (List.replicate n "---".toList).map escapeBars = List.replicate n "---".toList := by
    rw [List.map_replicate]
    rfl
  have hr : List.replicate n "---".toList ≠ [] := by simpa using hn
  have hc := cells_sourceLine hr fun s hs => by rw [List.eq_of_mem_replicate hs]; decide
  rwa [hd] at hc

theorem startsTable_sourceLine (hn : texts ≠ []) (ht : ∀ s ∈ texts, trim s = s) :
    startsTable (sourceLine (texts.map escapeBars)) (separatorLine texts.length) = true := by
  have hl : texts.length ≠ 0 := by simpa using hn
  rw [startsTable,isRow_sourceLine,isSeparator_separatorLine hl,cells_sourceLine hn ht,
    cells_separatorLine hl]
  simp

theorem notMem_sourceLine {c : Char} (hc : c ∉ [' ','|']) (h : ∀ s ∈ texts, c ∉ s) :
    c ∉ sourceLine texts := by
  intro hm
  simp only [List.mem_cons,List.not_mem_nil,or_false,not_or] at hc
  rw [sourceLine_eq,padded] at hm
  have hi : c ∈ " | ".toList.intercalate texts := by simpa [hc] using hm
  rcases mem_intercalate hi with hi | ⟨s,hs,hi⟩
  · simp [hc] at hi
  · exact h s hs hi

end

/-! ## Tables in messages -/

theorem map_plainCell (row : List Node) :
    row.map plainCell = (row.map cellText).map escapeBars := by
  rw [List.map_map]
  rfl

theorem ne_nil_of_mem_filledRows {rows : List Node} {row : List Node} (h : row ∈ filledRows rows) :
    row ≠ [] := by
  simpa using (List.mem_filter.mp h).2

theorem cells_rowLine {row : List Node} (hn : row ≠ []) :
    cells (rowLine row) = row.map cellText := by
  rw [rowLine,map_plainCell,cells_sourceLine (by simpa using hn)]
  exact List.forall_mem_map.mpr fun cell _ => trim_collapse cell.rawText

theorem lineFeed_notMem_plainCell (cell : Node) : '\n' ∉ plainCell cell := by
  intro h
  obtain ⟨c,hc,h⟩ := List.mem_flatMap.mp h
  obtain rfl : '\n' = c := by
    split_ifs at h
    · exact absurd h (by decide)
    · exact List.mem_singleton.mp h
  exact absurd (isBlank_of_mem_collapse hc (by decide)) (by decide)

theorem lineFeed_notMem_rowLine (row : List Node) : '\n' ∉ rowLine row :=
  notMem_sourceLine (by decide)
    (List.forall_mem_map.mpr fun cell _ => lineFeed_notMem_plainCell cell)

theorem lineFeed_notMem_separatorLine (n : ℕ) : '\n' ∉ separatorLine n :=
  notMem_sourceLine (by decide) fun s hs => by rw [List.eq_of_mem_replicate hs]; decide

theorem isTable_rowLines {first : List Node} (hn : first ≠ []) (more : List (List Node)) :
    IsTable (rowLine first) (separatorLine first.length) (more.map rowLine) [] := by
  constructor
  · have ht : first.map cellText ≠ [] := by simpa using hn
    have hs := startsTable_sourceLine ht
      (List.forall_mem_map.mpr fun cell _ => trim_collapse cell.rawText)
    rwa [← map_plainCell,List.length_map] at hs
  · exact List.forall_mem_map.mpr fun row _ => isRow_sourceLine _
  · simp

theorem sourceLines_eq (first second : List Node) (more : List (List Node)) :
    sourceLines ((first :: second :: more).map fun row => row.map plainCell) =
      rowLine first :: separatorLine first.length :: (second :: more).map rowLine := by
  simp [sourceLines,rowLine,separatorLine]

/-- A table with two rows that have cells is shown between tags, and what stands between them, read
as lines of source text, is one table with the texts of the cells. -/
theorem codeBlockTable_read_back {rows : List Node} (h : 2 ≤ (filledRows rows).length) :
    ∃ shown header separator data,
      codeBlockTable rows = "<pre><code>".toList ++ shown ++ "</code></pre>\n".toList ∧
      '<' ∉ shown ∧
      splitAt '\n' (CharRef.decodeText shown) = header :: separator :: data ∧
      tableLength? (header :: separator :: data) = some (header :: separator :: data).length ∧
      (header :: data).map cells = (filledRows rows).map fun row => row.map cellText := by
  have hf : ∀ row ∈ filledRows rows, row ≠ [] := fun row => ne_nil_of_mem_filledRows
  unfold codeBlockTable
  match hr : filledRows rows with
  | [] => simp [hr] at h
  | [row] => simp [hr] at h
  | first :: second :: more =>
    rw [hr] at hf
    rw [sourceLines_eq]
    let lines := rowLine first :: separatorLine first.length :: (second :: more).map rowLine
    have hl : ∀ line ∈ lines, '\n' ∉ line := by
      refine List.forall_mem_cons.mpr ⟨lineFeed_notMem_rowLine first,?_⟩
      refine List.forall_mem_cons.mpr ⟨lineFeed_notMem_separatorLine _,?_⟩
      exact List.forall_mem_map.mpr fun row _ => lineFeed_notMem_rowLine row
    refine ⟨escape (['\n'].intercalate lines),rowLine first,separatorLine first.length,
      (second :: more).map rowLine,rfl,(prose_escape _).opener_notMem,?_,?_,?_⟩
    · rw [decodeText_escape,splitAt_intercalate hl (by simp [lines])]
    · have ht := (isTable_rowLines (hf first List.mem_cons_self) (second :: more)).tableLength?_eq
      rw [List.append_nil] at ht
      rw [ht,List.length_cons,List.length_cons,Nat.add_comm]
    · rw [← List.map_cons,List.map_map]
      exact List.map_congr_left fun row hm => cells_rowLine (hf row hm)

def sampleRow (texts : List String) : Node :=
  .container .tableRow (texts.map fun s => .container .tableCell [.text s] []) []

def sampleTable : List Node :=
  [sampleRow ["a|b","\\",""],sampleRow [],sampleRow [" c\n\u2028d ","e\\|","<f>","\\\\"],
    sampleRow [""]]

theorem codeBlockTable_read_back_sampleTable :
    2 ≤ (filledRows sampleTable).length ∧
    ∃ shown header separator data,
      codeBlockTable sampleTable = "<pre><code>".toList ++ shown ++ "</code></pre>\n".toList ∧
      splitAt '\n' (CharRef.decodeText shown) = header :: separator :: data ∧
      tableLength? (header :: separator :: data) = some (header :: separator :: data).length ∧
      (header :: data).map cells =
        [["a|b".toList,"\\".toList,[]],["c d".toList,"e\\|".toList,"<f>".toList,"\\\\".toList],
          [[]]] := by
  have h : 2 ≤ (filledRows sampleTable).length := by decide
  obtain ⟨shown,header,separator,data,ht,-,hl,hn,hc⟩ := codeBlockTable_read_back h
  exact ⟨h,shown,header,separator,data,ht,hl,hn,hc.trans (by decide)⟩

end ChatMarkup.SourceTable
