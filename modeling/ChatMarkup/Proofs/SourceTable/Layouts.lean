import ChatMarkup.Proofs.Text.Splitting
import ChatMarkup.Proofs.Text.Trim
import ChatMarkup.Render.Table
import ChatMarkup.SourceTable.Listing

/-!
# One list in two notations

A table is written as a list in source text, before it is read, and in messages, when its tree is
rendered. Both lists are made of the same entries, one for each line: they leave out the same rows
and cells, name the same columns and treat a table with only a header in the same way. Only the
signs for items, indentation and bold labels differ.
-/
namespace ChatMarkup.SourceTable
open Text Render

/-- A line of a list: an item, or one below an item, with a label in bold, which is empty if there
is none, and the text behind the label. -/
structure Entry where
  nested : Bool
  label : List Char
  text : List Char
deriving DecidableEq, Repr

def Entry.inSource (entry : Entry) : List Char :=
  (if entry.nested then "    - ".toList else "- ".toList) ++ (boldSource entry.label).flatten ++
    entry.text

def Entry.inMessage (entry : Entry) : List Char :=
  (if entry.nested then indentUnit ++ bullet else bullet) ++ (boldLabel entry.label).flatten ++
    entry.text

def named (name value : List Char) : List Char :=
  if name.isEmpty then value else name ++ ": ".toList ++ value

def joined (label : List Char) (values : List (List Char)) : List Char :=
  cellSeparator.intercalate (if label.isEmpty then values else [] :: values)

/-- The entries of the cells from a column on. -/
def cellEntries (names : List (List Char)) : ℕ → List (List Char) → List Entry
  | _, [] => []
  | column, value :: rest =>
    if value.isEmpty then cellEntries names (column+1) rest
    else ⟨true,[],named (names[column]?.getD []) value⟩ :: cellEntries names (column+1) rest

def rowEntries (mode : TableMode) (names : List (List Char)) : List (List Char) → List Entry
  | [] => []
  | label :: rest =>
    if (label :: rest).all List.isEmpty then []
    else match mode with
      | .compactList => [⟨false,label,joined label (rest.filter fun value => !value.isEmpty)⟩]
      | _ => ⟨false,label,[]⟩ :: cellEntries names 1 rest

/-- The entries of a table; its header is data if there are no rows. -/
def tableEntries (mode : TableMode) (includeHeaders : Bool) (header : List (List Char)) :
    List (List (List Char)) → List Entry
  | [] => rowEntries mode [] header
  | rows => rows.flatMap (rowEntries mode (if includeHeaders then header else []))

/-- The lines of a list in a message, without the line ends behind it. -/
def bodyLines (list : List Char) : List (List Char) :=
  if list.isEmpty then [] else splitAt '\n' list.dropLast.dropLast

/-! ## Entries in source text -/

section
variable {mode : TableMode} {includeHeaders : Bool} {names : List (List Char)}

/-- A label that is shown in some way is followed by the values that are joined behind it. -/
theorem intercalate_shown (label shown : List Char) (values : List (List Char)) :
    cellSeparator.intercalate ((if label.isEmpty then [] else [shown]) ++ values) =
      (if label.isEmpty then [] else [shown]).flatten ++ joined label values := by
  unfold joined
  split_ifs with h
  · rfl
  · rw [List.singleton_append,intercalate_cons,List.flatten_singleton]

theorem intercalate_boldSource (label : List Char) (values : List (List Char)) :
    cellSeparator.intercalate (boldSource label ++ values) =
      (boldSource label).flatten ++ joined label values :=
  intercalate_shown label _ values

theorem intercalate_boldLabel (label : List Char) (values : List (List Char)) :
    cellSeparator.intercalate (boldLabel label ++ values) =
      (boldLabel label).flatten ++ joined label values :=
  intercalate_shown label _ values

theorem inSource_nested (name value : List Char) :
    Entry.inSource ⟨true,[],named name value⟩ = nestedItem name value := by
  unfold nestedItem named
  split_ifs <;> simp [Entry.inSource,boldSource]

theorem nestedItems_eq (header : List (List Char)) (column : ℕ) (values : List (List Char)) :
    nestedItems header includeHeaders column values =
      (cellEntries (if includeHeaders then header else []) column values).map Entry.inSource := by
  have hn (column : ℕ) : (if includeHeaders then header else [])[column]?.getD [] =
      if includeHeaders then header[column]?.getD [] else [] := by
    cases includeHeaders <;> simp
  induction values generalizing column with
  | nil => rfl
  | cons value rest ih =>
    rw [nestedItems,cellEntries]
    by_cases h : value.isEmpty = true
    · rw [if_pos h,if_pos h,ih]
    · rw [if_neg h,if_neg h,List.map_cons,inSource_nested,hn,ih]

theorem rowItems_eq (header values : List (List Char)) :
    rowItems mode header includeHeaders values =
      (rowEntries mode (if includeHeaders then header else []) values).map Entry.inSource := by
  cases values with
  | nil => rfl
  | cons label rest =>
    unfold rowItems rowEntries
    dsimp only
    by_cases h : (label :: rest).all List.isEmpty = true
    · rw [if_pos h,if_pos h,List.map_nil]
    · rw [if_neg h,if_neg h]
      cases mode with
      | compactList =>
        have hj := intercalate_boldSource label (rest.filter fun value => !value.isEmpty)
        rw [List.map_singleton,Entry.inSource,List.append_assoc,← hj]
        rfl
      | codeBlock => simp [nestedItems_eq,Entry.inSource]
      | detailedList => simp [nestedItems_eq,Entry.inSource]

theorem tableItems_eq (header : List (List Char)) (rows : List (List (List Char))) :
    tableItems mode includeHeaders header rows =
      (tableEntries mode includeHeaders header rows).map Entry.inSource := by
  cases rows with
  | nil =>
    rw [tableItems,tableEntries,rowItems_eq]
    simp
  | cons row rows =>
    rw [tableItems,tableEntries,List.map_flatMap]
    · exact List.flatMap_congr fun row _ => rowItems_eq header row
    · simp
    · simp

/-! ## Entries in messages -/

theorem inMessage_nested (name value : List Char) :
    Entry.inMessage ⟨true,[],named name value⟩ = indentUnit ++ bullet ++ named name value := by
  simp [Entry.inMessage,boldLabel]

theorem cellLines_eq (column : ℕ) (values : List (List Char)) :
    ((values.zipIdx column).filterMap fun (value,column) =>
      if value.isEmpty then none
      else some (indentUnit ++ bullet ++ named (names[column]?.getD []) value)) =
      (cellEntries names column values).map Entry.inMessage := by
  induction values generalizing column with
  | nil => rfl
  | cons value rest ih =>
    rw [List.zipIdx_cons,List.filterMap_cons,cellEntries,ih]
    by_cases h : value.isEmpty = true
    · simp [h]
    · simp [h,inMessage_nested]

theorem rowLines_eq (values : List (List Char)) :
    rowLines mode names values = (rowEntries mode names values).map Entry.inMessage := by
  cases values with
  | nil => rfl
  | cons label rest =>
    unfold rowLines rowEntries
    dsimp only
    rw [List.all_cons]
    by_cases h : (label.isEmpty && rest.all List.isEmpty) = true
    · rw [if_pos h,if_pos h,List.map_nil]
    · rw [if_neg h,if_neg h]
      have hm : Entry.inMessage ⟨false,label,[]⟩ = bullet ++ (boldLabel label).flatten := by
        simp [Entry.inMessage]
      cases mode with
      | compactList =>
        have hj := intercalate_boldLabel label (rest.filter fun value => !value.isEmpty)
        rw [List.map_singleton,Entry.inMessage,List.append_assoc,← hj]
        rfl
      | codeBlock =>
        rw [List.map_cons,← cellLines_eq,hm]
        rfl
      | detailedList =>
        rw [List.map_cons,← cellLines_eq,hm]
        rfl

theorem listTable_eq {header : List (List Char)} {rows : List (List (List Char))}
    (h : ∀ cells ∈ header :: rows, ∀ cell ∈ cells, trim cell = cell) :
    listTable mode includeHeaders (header :: rows) =
      listed ((tableEntries mode includeHeaders header rows).map Entry.inMessage) := by
  have ht : (header :: rows).map (fun row => row.map trim) = header :: rows := by
    refine (List.map_congr_left fun cells hc => ?_).trans (List.map_id _)
    exact (List.map_congr_left fun cell => h cells hc cell).trans (List.map_id _)
  rw [listTable,ht]
  cases rows with
  | nil =>
    simp [splitHeader,tableEntries,rowLines_eq]
  | cons row rows =>
    rw [tableEntries,List.map_flatMap]
    · exact congrArg listed (List.flatMap_congr fun row _ => rowLines_eq row)
    · simp

/-! ## Lines of lists -/

theorem endsFilled_cell {cell : List Char} (ht : trim cell = cell) (hn : ¬cell.isEmpty = true) :
    EndsFilled cell :=
  ⟨by simpa using hn,trimEnd_of_trim ht⟩

theorem endsFilled_named (name : List Char) {value : List Char} (h : EndsFilled value) :
    EndsFilled (named name value) := by
  unfold named
  split_ifs
  · exact h
  · exact h.append _

theorem endsFilled_label {label : List Char} (h : ¬label.isEmpty = true) :
    EndsFilled (Entry.inMessage ⟨false,label,[]⟩) := by
  rw [Entry.inMessage,boldLabel,if_neg h,List.append_nil,List.flatten_singleton,
    ← List.append_assoc]
  exact EndsFilled.append ⟨by decide,by decide⟩ _

theorem endsFilled_joined (label : List Char) {values : List (List Char)} (hn : values ≠ [])
    (h : ∀ value ∈ values, EndsFilled value) : EndsFilled (joined label values) := by
  have hl : ∀ value ∈ values.getLast?, EndsFilled value :=
    fun value hv => h value (List.mem_of_getLast? hv)
  apply endsFilled_intercalate
  · split_ifs <;> simp [hn]
  · split_ifs
    · exact hl
    · simpa [List.getLast?_cons_of_ne_nil hn] using hl

theorem endsFilled_cellEntries {column : ℕ} {values : List (List Char)}
    (ht : ∀ value ∈ values, trim value = value) :
    ∀ entry ∈ cellEntries names column values, EndsFilled entry.inMessage := by
  induction values generalizing column with
  | nil => simp [cellEntries]
  | cons value rest ih =>
    obtain ⟨hv,hr⟩ := List.forall_mem_cons.mp ht
    rw [cellEntries]
    split_ifs with h
    · exact ih hr
    · refine List.forall_mem_cons.mpr ⟨?_,ih hr⟩
      rw [inMessage_nested]
      exact (endsFilled_named _ (endsFilled_cell hv h)).append _

theorem cellEntries_eq_nil {column : ℕ} {values : List (List Char)}
    (h : cellEntries names column values = []) : values.all List.isEmpty = true := by
  induction values generalizing column with
  | nil => rfl
  | cons value rest ih =>
    rw [cellEntries] at h
    split_ifs at h with hv
    rw [List.all_cons,hv,ih h,Bool.and_self]

/-- The last line of a row does not end in a blank. -/
theorem endsFilled_rowEntries {values : List (List Char)}
    (ht : ∀ value ∈ values, trim value = value) :
    ∀ entry ∈ (rowEntries mode names values).getLast?, EndsFilled entry.inMessage := by
  cases values with
  | nil => simp [rowEntries]
  | cons label rest =>
    obtain ⟨hl,hr⟩ := List.forall_mem_cons.mp ht
    unfold rowEntries
    dsimp only
    split_ifs with h
    · simp
    have hlabel (ha : rest.all List.isEmpty = true) : ¬label.isEmpty = true :=
      fun he => h (by rw [List.all_cons,he,ha,Bool.and_self])
    have hcells : ∀ entry ∈ (⟨false,label,[]⟩ :: cellEntries names 1 rest).getLast?,
        EndsFilled entry.inMessage := by
      by_cases hc : cellEntries names 1 rest = []
      · rw [hc]
        simpa using endsFilled_label (hlabel (cellEntries_eq_nil hc))
      · rw [List.getLast?_cons_of_ne_nil hc]
        exact fun entry he => endsFilled_cellEntries hr entry (List.mem_of_getLast? he)
    cases mode with
    | compactList =>
      simp only [List.getLast?_singleton,Option.mem_def,Option.some.injEq,forall_eq']
      by_cases hf : rest.filter (fun value => !value.isEmpty) = []
      · have ha : rest.all List.isEmpty = true := by simpa using hf
        have hj : joined label [] = [] := by unfold joined; split_ifs <;> rfl
        rw [hf,hj]
        exact endsFilled_label (hlabel ha)
      · refine (endsFilled_joined label hf fun value hv => ?_).append _
        obtain ⟨hm,hv⟩ := List.mem_filter.mp hv
        exact endsFilled_cell (hr value hm) (by simpa using hv)
    | codeBlock => exact hcells
    | detailedList => exact hcells

theorem endsFilled_tableEntries {header : List (List Char)} {rows : List (List (List Char))}
    (h : ∀ cells ∈ header :: rows, ∀ cell ∈ cells, trim cell = cell) :
    ∀ entry ∈ (tableEntries mode includeHeaders header rows).getLast?,
      EndsFilled entry.inMessage := by
  obtain ⟨hh,hr⟩ := List.forall_mem_cons.mp h
  cases rows with
  | nil => exact endsFilled_rowEntries hh
  | cons row rows =>
    intro entry he
    rw [tableEntries,List.getLast?_flatMap] at he
    · obtain ⟨cells,hc,he⟩ := List.exists_of_findSome?_eq_some he
      exact endsFilled_rowEntries (hr cells (List.mem_reverse.mp hc)) entry he
    · simp

def Entry.OneLine (entry : Entry) : Prop := '\n' ∉ entry.label ∧ '\n' ∉ entry.text

theorem Entry.OneLine.laidOut {entry : Entry} (h : entry.OneLine) {start shown : List Char}
    (hs : '\n' ∉ start) (hb : '\n' ∉ shown) :
    '\n' ∉ start ++ (if entry.label.isEmpty then [] else [shown]).flatten ++ entry.text := by
  rw [List.mem_append,List.mem_append,not_or,not_or]
  refine ⟨⟨hs,?_⟩,h.2⟩
  split_ifs
  · exact List.not_mem_nil
  · rwa [List.flatten_singleton]

theorem Entry.OneLine.inSource {entry : Entry} (h : entry.OneLine) : '\n' ∉ entry.inSource := by
  apply h.laidOut
  · split_ifs <;> decide
  · simp [h.1]

theorem Entry.OneLine.inMessage {entry : Entry} (h : entry.OneLine) :
    '\n' ∉ entry.inMessage := by
  apply h.laidOut
  · split_ifs <;> decide
  · simp [h.1]

theorem notMem_named {name value : List Char} (hn : '\n' ∉ name) (hv : '\n' ∉ value) :
    '\n' ∉ named name value := by
  unfold named
  split_ifs <;> simp [hn,hv]

theorem notMem_joined (label : List Char) {values : List (List Char)}
    (h : ∀ value ∈ values, '\n' ∉ value) : '\n' ∉ joined label values := by
  intro hm
  rcases mem_intercalate hm with hm | ⟨value,hv,hm⟩
  · exact absurd hm (by decide)
  · split_ifs at hv
    · exact h value hv hm
    · rcases List.mem_cons.mp hv with rfl | hv
      · simp at hm
      · exact h value hv hm

theorem oneLine_cellEntries {column : ℕ} {values : List (List Char)}
    (hn : ∀ name ∈ names, '\n' ∉ name) (h : ∀ value ∈ values, '\n' ∉ value) :
    ∀ entry ∈ cellEntries names column values, entry.OneLine := by
  induction values generalizing column with
  | nil => simp [cellEntries]
  | cons value rest ih =>
    obtain ⟨hv,hr⟩ := List.forall_mem_cons.mp h
    have hname : '\n' ∉ names[column]?.getD [] := by
      cases hc : names[column]? with
      | none => exact List.not_mem_nil
      | some name => exact hn name (List.mem_of_getElem? hc)
    rw [cellEntries]
    split_ifs
    · exact ih hr
    · exact List.forall_mem_cons.mpr ⟨⟨List.not_mem_nil,notMem_named hname hv⟩,ih hr⟩

theorem oneLine_rowEntries {values : List (List Char)} (hn : ∀ name ∈ names, '\n' ∉ name)
    (h : ∀ value ∈ values, '\n' ∉ value) :
    ∀ entry ∈ rowEntries mode names values, entry.OneLine := by
  cases values with
  | nil => simp [rowEntries]
  | cons label rest =>
    obtain ⟨hl,hr⟩ := List.forall_mem_cons.mp h
    have hcells : ∀ entry ∈ ⟨false,label,[]⟩ :: cellEntries names 1 rest, entry.OneLine :=
      List.forall_mem_cons.mpr ⟨⟨hl,List.not_mem_nil⟩,oneLine_cellEntries hn hr⟩
    unfold rowEntries
    dsimp only
    split_ifs
    · simp
    · cases mode with
      | compactList =>
        refine List.forall_mem_singleton.mpr ⟨hl,notMem_joined label fun value hv => ?_⟩
        exact hr value (List.mem_of_mem_filter hv)
      | codeBlock => exact hcells
      | detailedList => exact hcells

theorem oneLine_tableEntries {header : List (List Char)} {rows : List (List (List Char))}
    (h : ∀ cells ∈ header :: rows, ∀ cell ∈ cells, '\n' ∉ cell) :
    ∀ entry ∈ tableEntries mode includeHeaders header rows, entry.OneLine := by
  obtain ⟨hh,hr⟩ := List.forall_mem_cons.mp h
  cases rows with
  | nil => exact oneLine_rowEntries (by simp) hh
  | cons row rows =>
    have hn : ∀ name ∈ if includeHeaders then header else [], '\n' ∉ name := by
      split_ifs
      · exact hh
      · simp
    intro entry he
    rw [tableEntries,List.mem_flatMap] at he
    · obtain ⟨cells,hc,he⟩ := he
      exact oneLine_rowEntries hn (hr cells hc) entry he
    · simp

theorem bodyLines_listed {lines : List (List Char)} (hl : ∀ line ∈ lines, '\n' ∉ line)
    (he : ∀ line ∈ lines.getLast?, EndsFilled line) : bodyLines (listed lines) = lines := by
  cases lines with
  | nil => rfl
  | cons line lines =>
    have hf := endsFilled_intercalate (List.cons_ne_nil line lines) he ['\n']
    have hd : (['\n'].intercalate (line :: lines) ++ "\n\n".toList).dropLast.dropLast =
        ['\n'].intercalate (line :: lines) := by simp
    rw [listed,hf.2,bodyLines,if_neg (by simp),hd,splitAt_intercalate hl (by simp)]
    simp

end

/-- The lists of a table of trimmed cells in source text and in a message have the same entries,
line by line. -/
theorem layouts_agree (mode : TableMode) (includeHeaders : Bool) {header : List (List Char)}
    {rows : List (List (List Char))}
    (h : ∀ cells ∈ header :: rows, ∀ cell ∈ cells, trim cell = cell ∧ '\n' ∉ cell) :
    tableItems mode includeHeaders header rows =
      (tableEntries mode includeHeaders header rows).map Entry.inSource ∧
    bodyLines (listTable mode includeHeaders (header :: rows)) =
      (tableEntries mode includeHeaders header rows).map Entry.inMessage := by
  have ht : ∀ cells ∈ header :: rows, ∀ cell ∈ cells, trim cell = cell :=
    fun cells hc cell hm => (h cells hc cell hm).1
  have ho : ∀ entry ∈ tableEntries mode includeHeaders header rows, entry.OneLine :=
    oneLine_tableEntries fun cells hc cell hm => (h cells hc cell hm).2
  refine ⟨tableItems_eq header rows,?_⟩
  rw [listTable_eq ht]
  apply bodyLines_listed
  · exact List.forall_mem_map.mpr fun entry he => (ho entry he).inMessage
  · intro line hl
    obtain ⟨entry,he,rfl⟩ := Option.map_eq_some_iff.mp (List.getLast?_map.symm.trans hl)
    exact endsFilled_tableEntries ht entry he

def raggedHeader : List (List Char) := ["Name".toList,"Age".toList]

def raggedRows : List (List (List Char)) :=
  [["Ann".toList,"30".toList,"Rome".toList],[[],[]],[[],"7".toList]]

theorem layouts_agree_ragged :
    (∀ cells ∈ raggedHeader :: raggedRows, ∀ cell ∈ cells, trim cell = cell ∧ '\n' ∉ cell) ∧
    tableItems .detailedList true raggedHeader raggedRows =
      ["- **Ann**".toList,"    - Age: 30".toList,"    - Rome".toList,"- ".toList,
        "    - Age: 7".toList] ∧
    bodyLines (listTable .detailedList true (raggedHeader :: raggedRows)) =
      [bullet ++ "<b>Ann</b>".toList,indentUnit ++ bullet ++ "Age: 30".toList,
        indentUnit ++ bullet ++ "Rome".toList,bullet,indentUnit ++ bullet ++ "Age: 7".toList] := by
  have h : ∀ cells ∈ raggedHeader :: raggedRows, ∀ cell ∈ cells,
      trim cell = cell ∧ '\n' ∉ cell := by decide
  obtain ⟨hs,hm⟩ := layouts_agree .detailedList true h
  exact ⟨h,hs.trans (by decide),hm.trans (by decide)⟩

end ChatMarkup.SourceTable
