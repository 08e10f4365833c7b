import ChatMarkup.Proofs.Data.Members
import ChatMarkup.Proofs.Data.Outcomes
import ChatMarkup.Records

/-!
# Records in a row

Every record is converted by itself. Where failures are kept, what comes of a row of records is what
comes of each in turn: copies that differ from the record in the message and in the position only,
one for each message of its text, or a single copy with the error. Where failures are not kept, the
first record that fails is all that is told.
-/
namespace ChatMarkup

/-! ## A record by itself -/

def Value.fields : Value → Members
  | .object members => members
  | _ => []

/-- A copy of a record tells its position, and has all that the record has but for some fields. -/
structure IsCopy (changed : List String) (index : ℕ) (record : Value) (copy : Members) : Prop where
  position : copy.get? positionField = some (.int index)
  agrees : ∀ key, key ≠ positionField → key ∉ changed → copy.get? key = record.fields.get? key

def leftBy (reader : Markdown.Reader) (options : MessageOptions) (index : ℕ) (record : Value) :
    List Members :=
  match convertRecord reader options index record with
  | .ok copies => copies
  | .error failure => [failedRecord index record failure]

section
variable {reader : Markdown.Reader} {options : MessageOptions} {index : ℕ} {record : Value}

theorem isCopy_setAll (ms : Members) (field : String) (v : Value) (index : ℕ) :
    IsCopy [field] index (.object ms) (ms.setAll [(field,v),(positionField,.int index)]) := by
  refine ⟨?_,fun key hp hc => ?_⟩
  · rw [Members.get?_setAll]
    rfl
  · have hf : field ≠ key := fun h => hc (by simp [h])
    rw [Members.get?_setAll]
    simp [Members.get?_cons,Ne.symm hp,hf,Value.fields]

theorem get?_setAll_field (ms : Members) {field : String} (h : field ≠ positionField)
    (v w : Value) : (ms.setAll [(field,v),(positionField,w)]).get? field = some v := by
  rw [Members.get?_setAll]
  simp [Members.get?_cons,Ne.symm h]

theorem isCopy_failedRecord (index : ℕ) (record : Value) (failure : Failure) :
    IsCopy [errorField] index record (failedRecord index record failure) ∧
      (failedRecord index record failure).get? errorField = some (.text failure.message) := by
  have hn : errorField ≠ positionField := by decide
  unfold failedRecord
  cases record with
  | object ms => exact ⟨isCopy_setAll ms _ _ index,get?_setAll_field ms hn _ _⟩
  | _ =>
    refine ⟨?_,get?_setAll_field [] hn _ _⟩
    obtain ⟨hp,ha⟩ := isCopy_setAll [] errorField (.text failure.message) index
    exact ⟨hp,ha⟩

/-- The text that is read where escapes are undone as the options say. -/
def MessageOptions.readText (options : MessageOptions) (text : String) : String :=
  if options.cleanEscapes then String.ofList (unescapeBackslashes text.toList) else text

/-- Without keywords, messages are made as the options say. -/
theorem messages_nil (reader : Markdown.Reader) (text : String) (options : MessageOptions) :
    messages reader (.text text) options [] =
      (markupOfText reader options.renderer options.parser (options.readText text)).map
        (fit options.charLimit.value options.strategy) := by
  have ho : takeKeywords MessageOptions.plainNames MessageOptions.update options [] =
      .ok (options,[]) := rfl
  have hc : conversionOptions options.renderer options.parser [] =
      .ok (options.renderer,options.parser) := rfl
  have ht : (if options.cleanEscapes then (Source.text text).cleaned else .text text).content =
      options.readText text := by
    unfold MessageOptions.readText
    split <;> rfl
  simp only [messages,ho,hc,ht,bind,Except.bind]
  cases markupOfText reader options.renderer options.parser (options.readText text) <;> rfl

/-- The copies of a record are made of the messages of its text. -/
theorem convertRecord_object (reader : Markdown.Reader) (options : MessageOptions) (index : ℕ)
    (ms : Members) :
    convertRecord reader options index (.object ms) =
      (recordText options.textField ms >>= fun text => messages reader (.text text) options []).map
        (List.map fun message => ms.setAll
          [(options.outputField,.text message),(positionField,.int index)]) := by
  dsimp only [convertRecord]
  cases recordText options.textField ms with
  | error failure => rfl
  | ok text =>
    have ht : (if options.cleanEscapes then String.ofList (unescapeBackslashes text.toList)
        else text) = options.readText text := rfl
    simp only [bind,Except.bind,messages_nil,ht]
    cases markupOfText reader options.renderer options.parser (options.readText text) <;> rfl

theorem copied_of_convertRecord {copies : List Members}
    (h : convertRecord reader options index record = .ok copies) :
    ∀ copy ∈ copies, IsCopy [options.outputField] index record copy := by
  cases record with
  | object ms =>
    rw [convertRecord_object] at h
    obtain ⟨shown,-,rfl⟩ := map_eq_ok.mp h
    exact List.forall_mem_map.mpr fun message _ => isCopy_setAll ms _ _ index
  | _ => cases h

theorem position_of_mem_leftBy {copy : Members} (h : copy ∈ leftBy reader options index record) :
    copy.get? positionField = some (.int index) := by
  unfold leftBy at h
  split at h
  · next copies hc => exact (copied_of_convertRecord hc copy h).position
  · obtain rfl := List.mem_singleton.mp h
    exact (isCopy_failedRecord ..).1.position

end

/-! ## A row of records -/

section
variable {reader : Markdown.Reader} {options : MessageOptions} {records : List Value}

theorem keepFailed_recordOutcomes : keepFailed (recordOutcomes reader options records) =
    records.zipIdx.flatMap fun x => leftBy reader options x.2 x.1 := by
  rw [keepFailed,recordOutcomes,List.flatMap_map]
  rfl

end

end ChatMarkup
