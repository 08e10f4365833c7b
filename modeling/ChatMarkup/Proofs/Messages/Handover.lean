import ChatMarkup.Messages
import ChatMarkup.Proofs.Data.Members
import ChatMarkup.Proofs.Data.Outcomes
import ChatMarkup.Proofs.Escape.Backslashes
import ChatMarkup.Proofs.Text.Utf8

/-!
# The form in which a text is handed over

Bytes, files and streams of either kind give the text that was encoded, so the conversions read the
same document in every form. The one step that looks at the form is the undoing of escapes, which
is for text handed over as such: it has the messages that the other forms have for the text without
its escapes. All this holds whatever reads the Markdown, also where it fails.
-/
namespace ChatMarkup
open Text

inductive Form where
  | text
  | bytes
  | file
  | textStream
  | byteStream
deriving DecidableEq, Repr

/-- A text, handed over in some form; bytes are its encoding. -/
def Form.source (t : String) : Form → Source
  | .text => .text t
  | .bytes => .bytes (encodeUtf8 t.toList)
  | .file => .file (encodeUtf8 t.toList)
  | .textStream => .textStream t
  | .byteStream => .byteStream (encodeUtf8 t.toList)

def Marked (t : String) : Prop := t.toList.head? = some '\uFEFF'

instance (t : String) : Decidable (Marked t) := inferInstanceAs (Decidable (_ = _))

theorem Form.content_source {t : String} (h : ¬ Marked t) (form : Form) :
    (form.source t).content = t := by
  have hd : String.ofList (decodeDocument (encodeUtf8 t.toList)) = t := by
    rw [decodeDocument_encodeUtf8 h,String.ofList_toList]
  cases form with
  | text => rfl
  | bytes => exact hd
  | file => exact hd
  | textStream => rfl
  | byteStream => exact hd

theorem Form.cleaned_source {form : Form} (h : form ≠ .text) (t : String) :
    (form.source t).cleaned = form.source t := by
  cases form with
  | text => exact absurd rfl h
  | bytes => rfl
  | file => rfl
  | textStream => rfl
  | byteStream => rfl

/-! ## Undoing escapes -/

def withoutEscapes (t : String) : String := String.ofList (unescapeBackslashes t.toList)

theorem not_marked_withoutEscapes {t : String} (h : ¬ Marked t) : ¬ Marked (withoutEscapes t) := by
  unfold Marked at h ⊢
  rw [withoutEscapes,String.toList_ofList,unescapeBackslashes]
  rcases head?_expandLineBreaks (halveBackslashes t.toList) with he | he
  · rwa [he,head?_halveBackslashes]
  · rw [he]
    decide

def undoesEscapes (options : MessageOptions) (keywords : Members) : Bool :=
  chosen keywords "clean_escapes" options.cleanEscapes

theorem cleanEscapes_update {options o : MessageOptions} {given : Members}
    (h : options.update given = .ok o) :
    o.cleanEscapes = chosen given "clean_escapes" options.cleanEscapes := by
  simp only [MessageOptions.update,bind_eq_ok] at h
  obtain ⟨_,-,_,-,_,-,_,-,_,-,_,-,_,-,h⟩ := h
  obtain rfl := Except.ok.inj h
  rfl

theorem get?_partitionNames {names : List String} {key : String} (h : key ∈ names)
    (given : Members) : (given.partitionNames names).1.get? key = given.get? key := by
  rw [Members.partitionNames,List.partition_eq_filter_filter]
  dsimp only
  induction given with
  | nil => rfl
  | cons m given ih =>
    obtain ⟨k,v⟩ := m
    rw [Members.get?_cons,List.filter_cons]
    by_cases hk : k = key
    · subst hk
      rw [if_pos (by simpa using h),Members.get?_cons,if_pos rfl,if_pos rfl]
    · rw [if_neg hk,← ih]
      split_ifs
      · rw [Members.get?_cons,if_neg hk]
      · rfl

theorem cleanEscapes_takeKeywords {options o : MessageOptions} {keywords rest : Members}
    (h : takeKeywords MessageOptions.plainNames MessageOptions.update options keywords =
      .ok (o,rest)) : o.cleanEscapes = undoesEscapes options keywords := by
  unfold takeKeywords at h
  dsimp only at h
  obtain ⟨o',ho,he⟩ := map_eq_ok.mp h
  obtain ⟨rfl,-⟩ := Prod.mk.inj he
  rw [cleanEscapes_update (mapError_eq_ok.mp ho),chosen,get?_partitionNames (by decide),
    undoesEscapes,chosen]

/-! ## Conversions -/

/-- Messages depend on the text that is left when escapes are undone, and on nothing else of the
document. -/
theorem messages_congr (reader : Markdown.Reader) {source other : Source}
    {options : MessageOptions} {keywords : Members}
    (h : (if undoesEscapes options keywords then source.cleaned else source).content =
      (if undoesEscapes options keywords then other.cleaned else other).content) :
    messages reader source options keywords = messages reader other options keywords := by
  unfold messages
  refine bind_congr_ok fun ⟨o,rest⟩ ht => ?_
  refine bind_congr_ok fun ⟨renderer,parser⟩ _ => ?_
  dsimp only
  rw [cleanEscapes_takeKeywords ht,h]

/-- The text whose document the messages of a text show. -/
def readFor (options : MessageOptions) (keywords : Members) (t : String) : String :=
  if undoesEscapes options keywords then withoutEscapes t else t

/-- Every form of a text without a byte order mark makes the same document and the same markup. It
makes the same messages in every form but the text itself, and this one makes those that any other
form makes of the text with its escapes undone, where the options or keywords ask for that. -/
theorem converted_in_every_form (reader : Markdown.Reader) {t : String} (h : ¬ Marked t)
    (form : Form) :
    (∀ renderer parser keywords, markupOfSource reader (form.source t) renderer parser keywords =
      markupOfSource reader (.text t) renderer parser keywords) ∧
    (∀ parser, reader.document parser (form.source t).content.toList =
      reader.document parser t.toList) ∧
    (form ≠ .text → ∀ options keywords,
      messages reader (form.source t) options keywords =
        messages reader (.textStream t) options keywords ∧
      messages reader (.text t) options keywords =
        messages reader (form.source (readFor options keywords t)) options keywords) := by
  have hc := form.content_source h
  refine ⟨fun renderer parser keywords => ?_,fun parser => by rw [hc],
    fun hf options keywords => ⟨messages_congr reader ?_,messages_congr reader ?_⟩⟩
  · rw [markupOfSource,markupOfSource,hc]
    rfl
  · have hs : (Source.textStream t).cleaned = .textStream t := rfl
    rw [Form.cleaned_source hf,hs,ite_self,ite_self,hc,Source.content]
  · have hr : ¬ Marked (readFor options keywords t) := by
      unfold readFor
      split_ifs
      · exact not_marked_withoutEscapes h
      · exact h
    rw [Form.cleaned_source hf,ite_self,form.content_source hr,readFor]
    split_ifs <;> rfl

/-- A line break that is escaped once, in a stream of bytes and as text. -/
theorem converted_in_every_form_lineBreak :
    ¬ Marked "a\\nb" ∧
      markupOfSource Markdown.reader (Form.byteStream.source "a\\nb") {} {} [] =
        markupOfSource Markdown.reader (.text "a\\nb") {} {} [] ∧
      messages Markdown.reader (Form.byteStream.source "a\\nb") {} [] =
        messages Markdown.reader (.textStream "a\\nb") {} [] ∧
      messages Markdown.reader (.text "a\\nb") {} [] =
        messages Markdown.reader (Form.byteStream.source "a\nb") {} [] := by
  have hm : ¬ Marked "a\\nb" := by decide
  have hr : readFor {} [] "a\\nb" = "a\nb" := by decide
  obtain ⟨hh,-,h⟩ := converted_in_every_form Markdown.reader hm .byteStream
  obtain ⟨hs,ht⟩ := h (by decide) {} []
  rw [hr] at ht
  exact ⟨hm,hh {} {} [],hs,ht⟩

/-- With the options as they come, a text and its bytes make different messages. -/
theorem messages_of_bytes_keep_escapes :
    ¬ Marked "a\\nb" ∧
      messages Markdown.reader (Form.bytes.source "a\\nb") {} [] ≠
        messages Markdown.reader (Form.text.source "a\\nb") {} [] := by
  refine ⟨by decide,fun h => ?_⟩
  have ho := congrArg Except.toOption h
  have hb : (messages Markdown.reader (Form.bytes.source "a\\nb") {} []).toOption =
      some ["a\\nb"] := by
    decide +kernel
  have ht : (messages Markdown.reader (Form.text.source "a\\nb") {} []).toOption =
      some ["a\nb"] := by
    decide +kernel
  rw [hb,ht] at ho
  revert ho
  decide

end ChatMarkup
