import ChatMarkup.Proofs.Markup.Visible
import ChatMarkup.Proofs.Records.Batch
import ChatMarkup.Proofs.Render.Outcomes
import ChatMarkup.Proofs.Render.Safety

/-!
# Records and their copies

Where failures are kept, a record has a copy that tells its position, be it with a message or with
an error. There is one exception. Markup that is too long for a message and shows nothing is split
into no message at all, and its record has no copy.
-/
namespace ChatMarkup
open Markup

theorem wellFormed_of_documentMarkup {o : RenderOptions} {n : Node} {markup : String}
    (h : Render.documentMarkup o n = .ok markup) : WellFormed markup.toList := by
  rw [Render.eq_of_documentMarkup h]
  exact (Render.safe_nodeMarkup _ _).wellFormed

/-- The markup of a text is well formed. -/
theorem wellFormed_of_markupOfText {reader : Markdown.Reader} {renderer : RenderOptions}
    {parser : Markdown.Options} {text markup : String}
    (h : markupOfText reader renderer parser text = .ok markup) : WellFormed markup.toList := by
  unfold markupOfText at h
  split at h
  · cases h
    exact (wellFormed_iff _).mpr (segment_nil [])
  · obtain ⟨n,-,h⟩ := bind_eq_ok.mp h
    exact wellFormed_of_documentMarkup h

/-- Only splitting leaves nothing of a markup, and only where there is nothing to see in it. -/
theorem fit_eq_nil_iff {limit : ℕ} {strategy : Strategy} {markup : String}
    (h : WellFormed markup.toList) : fit limit strategy markup = [] ↔
      strategy = .split ∧ limit < markup.length ∧ hasVisibleContent markup.toList = false := by
  unfold fit
  split_ifs with hl
  · simp [not_lt.mpr hl]
  · cases strategy with
    | split => simp [split_eq_nil_iff h,not_le.mp hl]
    | truncate => simp

/-- The markup of a record is to be split, is too long for a message, and shows nothing. -/
def ShowsNothing (reader : Markdown.Reader) (options : MessageOptions) (record : Value) : Prop :=
  ∃ ms text markup, record = .object ms ∧ recordText options.textField ms = .ok text ∧
    markupOfText reader options.renderer options.parser (options.readText text) = .ok markup ∧
    options.strategy = .split ∧ options.charLimit.value < markup.length ∧
    hasVisibleContent markup.toList = false

section
variable {reader : Markdown.Reader} {options : MessageOptions} {index : ℕ} {record : Value}

theorem convertRecord_eq_nil_iff :
    convertRecord reader options index record = .ok [] ↔
      ShowsNothing reader options record := by
  cases record with
  | object ms =>
    rw [convertRecord_object,map_eq_ok]
    simp only [bind_eq_ok,messages_nil,map_eq_ok,List.map_eq_nil_iff]
    constructor
    · rintro ⟨shown,⟨text,ht,markup,hm,rfl⟩,hn⟩
      exact ⟨ms,text,markup,rfl,ht,hm,(fit_eq_nil_iff (wellFormed_of_markupOfText hm)).mp hn⟩
    · rintro ⟨_,text,markup,⟨⟩,ht,hm,hn⟩
      exact ⟨_,⟨text,ht,markup,hm,rfl⟩,(fit_eq_nil_iff (wellFormed_of_markupOfText hm)).mpr hn⟩
  | _ =>
    constructor
    · nofun
    · rintro ⟨_,_,_,⟨⟩,-⟩

theorem leftBy_eq_nil_iff :
    leftBy reader options index record = [] ↔ ShowsNothing reader options record := by
  rw [← @convertRecord_eq_nil_iff reader options index,leftBy]
  cases convertRecord reader options index record <;> simp

end

/-- A record has a copy that tells its position, unless its markup shows nothing. -/
theorem exists_copy_iff (reader : Markdown.Reader) (options : MessageOptions)
    (records : List Value) :
    ∃ copies, convertRecords reader options true records = .ok copies ∧
      ∀ (i : ℕ) record, records[i]? = some record →
        ((∃ copy ∈ copies, copy.get? positionField = some (.int i)) ↔
          ¬ShowsNothing reader options record) := by
  refine ⟨keepFailed (recordOutcomes reader options records),rfl,fun i record hi => ?_⟩
  rw [keepFailed_recordOutcomes,← @leftBy_eq_nil_iff reader options i]
  constructor
  · rintro ⟨copy,hc,hp⟩ hn
    obtain ⟨⟨other,j⟩,hm,hl⟩ := List.mem_flatMap.mp hc
    -- the position tells which record the copy is of
    rw [position_of_mem_leftBy hl,Option.some.injEq,Value.int.injEq,Int.natCast_inj] at hp
    subst hp
    rw [List.mem_zipIdx_iff_getElem?,hi,Option.some.injEq] at hm
    obtain rfl := hm
    rw [hn] at hl
    cases hl
  · intro hn
    obtain ⟨copy,hc⟩ := List.exists_mem_of_ne_nil _ hn
    refine ⟨copy,List.mem_flatMap.mpr ⟨(record,i),?_,hc⟩,position_of_mem_leftBy hc⟩
    exact List.mem_zipIdx_iff_getElem?.mpr hi

def hiddenBlank : Value := .object [("markdown",.text "|| ||")]

/-- Messages of at most five characters, as many as it takes. -/
def shortMessages : MessageOptions := { strategy := .split, charLimit := { value := 5 } }

theorem convertRecords_hiddenBlank :
    convertRecords Markdown.reader shortMessages true [hiddenBlank] = .ok [] := by
  have hm : markupOfText Markdown.reader {} {} "|| ||" = .ok "<tg-spoiler> </tg-spoiler>" :=
    toOption_eq_some.mp (by decide +kernel)
  have hn : ShowsNothing Markdown.reader shortMessages hiddenBlank :=
    ⟨_,"|| ||",_,rfl,rfl,hm,rfl,by decide +kernel,by decide +kernel⟩
  have hl : leftBy Markdown.reader shortMessages 0 hiddenBlank = [] := leftBy_eq_nil_iff.mpr hn
  simp [convertRecords,keepFailed_recordOutcomes,hl]

end ChatMarkup
