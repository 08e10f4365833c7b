import ChatMarkup.Proofs.Data.Members
import ChatMarkup.Proofs.Markdown.Joining

/-!
# Descriptions of images

The description of an image is read off the spans inside of it, without any nodes being made: their
raw texts, with references decoded in texts only, and line feeds for soft breaks. Unless there is an
image among these spans, it is the text that the nodes would have that the spans give, whether texts
are joined or not. An image inside is described by its own description, and as a node it has no text.
-/
namespace ChatMarkup.Markdown
open Node

namespace Span

/-! ## Spans without images -/

inductive Imageless : Span → Prop
  | text (raw : String) : Imageless (.text raw)
  | softBreak : Imageless .softBreak
  | lineBreak : Imageless .lineBreak
  | styled (style : Style) {children : List Span} :
      (∀ s ∈ children, Imageless s) → Imageless (.styled style children)
  | code (raw : String) : Imageless (.code raw)
  | link (url : String) (title : Option String) {children : List Span} :
      (∀ s ∈ children, Imageless s) → Imageless (.link url title children)
  | html (raw : String) : Imageless (.html raw)

theorem toList_plainTexts {join : Bool} {spans : List Span}
    (h : ∀ s ∈ spans, (plainText s).toList = (toNode join s).rawText) :
    (plainTexts spans).toList = rawTextList (content join spans) := by
  rw [content,rawTextList_settleTexts]
  induction spans with
  | nil => rw [plainTexts,toNodes]; rfl
  | cons s spans ih =>
    obtain ⟨hs,hr⟩ := List.forall_mem_cons.mp h
    rw [plainTexts,toNodes,rawTextList,String.toList_append,hs,ih hr]

theorem toList_plainText {s : Span} (h : Imageless s) (join : Bool) :
    (plainText s).toList = (toNode join s).rawText := by
  induction h with
  | text raw => rw [plainText,toNode]; rfl
  | softBreak => rw [plainText,toNode]; rfl
  | lineBreak => rw [plainText,toNode]; rfl
  | styled style _ ih => rw [plainText,toNode,rawText]; exact toList_plainTexts ih
  | code raw => rw [plainText,toNode]; rfl
  | link url title _ ih => rw [plainText,toNode,rawText]; exact toList_plainTexts ih
  | html raw => rw [plainText,toNode]; simp [htmlNode,rawText,rawTextList]

/-! ## Spans received as data -/

def childValues (ms : Members) : List Value :=
  match ms.get? "children" with
  | some (.list values) => values
  | _ => []

/-- An object for a span without images: with a raw text of its own, with nothing inside of it, or
with other such objects. -/
inductive ImagelessToken : Members → Prop
  | raw {ms : Members} {s : String} : typeName ms ∈ ["text","codespan","inline_html"] →
      ms.get? "raw" = some (.text s) → ImagelessToken ms
  | empty {ms : Members} :
      typeName ms ∈ ["text","softbreak","linebreak","codespan","inline_html"] →
      ms.get? "raw" = none → childValues ms = [] → ImagelessToken ms
  | nested {ms : Members} : typeName ms ∈ ["strong","emphasis","strikethrough","link"] →
      ms.get? "raw" = none →
      (∀ inner, Value.object inner ∈ childValues ms → ImagelessToken inner) → ImagelessToken ms

def description (v : Value) : String := plainTexts (spansOf v).2

theorem spansOfChildren_eq (ms : Members) : spansOfChildren ms = spansOfAll (childValues ms) := by
  induction ms with
  | nil => rw [spansOfChildren]; simp [childValues,Members.get?,spansOfAll]
  | cons m ms ih =>
    obtain ⟨key,v⟩ := m
    rw [spansOfChildren,childValues,Members.get?_cons]
    by_cases hk : key = "children"
    · rw [if_pos (by simpa using hk),if_pos (by simpa using hk)]
      cases v <;> simp [spansOf,spansOfAll]
    · rw [if_neg (by simpa using hk),if_neg (by simpa using hk),ih,childValues]

/-- An object is read alike as content and as a description, and no image is found in it. -/
structure ReadAlike (ms : Members) : Prop where
  imageless : Imageless (ofMembers ms (spansOfChildren ms).1 (spansOfChildren ms).2)
  plainText_eq : plainText (describing ms (spansOfChildren ms).2) =
    plainText (ofMembers ms (spansOfChildren ms).1 (spansOfChildren ms).2)

/-- A row of values is read alike if each object in it is. -/
theorem readAlike_row {tokens : List Value}
    (h : ∀ ms, Value.object ms ∈ tokens → ReadAlike ms) :
    (∀ s ∈ (spansOfAll tokens).1, Imageless s) ∧
      plainTexts (spansOfAll tokens).2 = plainTexts (spansOfAll tokens).1 := by
  induction tokens with
  | nil => rw [spansOfAll]; simp
  | cons t tokens ih =>
    obtain ⟨hs,hp⟩ := ih fun ms hm => h ms (List.mem_cons_of_mem t hm)
    rcases exists_object_or_none t with ⟨ms,rfl⟩ | ht
    · have ha := h ms List.mem_cons_self
      rw [spansOfAll]
      refine ⟨List.forall_mem_cons.mpr ⟨ha.imageless,hs⟩,?_⟩
      rw [plainTexts,plainTexts,ha.plainText_eq,hp]
    · rw [spansOfAll_cons_of_none ht]
      exact ⟨hs,hp⟩

theorem readAlike_of {ms : Members} {content label : Span} (hi : Imageless content)
    (hc : ofMembers ms (spansOfChildren ms).1 (spansOfChildren ms).2 = content)
    (hl : describing ms (spansOfChildren ms).2 = label)
    (hp : plainText label = plainText content) : ReadAlike ms :=
  ⟨hc ▸ hi,by rw [hc,hl,hp]⟩

theorem readAlike_raw {ms : Members} {s : String}
    (ht : typeName ms ∈ ["text","codespan","inline_html"]) (hr : ms.get? "raw" = some (.text s)) :
    ReadAlike ms := by
  have hq : memberText? ms "raw" = some s := by simp [memberText?,hr,textOf?]
  have hm : memberText ms "raw" = s := by simp [memberText,hq]
  simp only [List.mem_cons,List.not_mem_nil,or_false] at ht
  rcases ht with ht | ht | ht
  · exact readAlike_of (.text s) (by simp [ofMembers,ht,Style.ofName?,hm])
      (by simp [describing,ht,hm]) rfl
  · exact readAlike_of (.code s) (by simp [ofMembers,ht,Style.ofName?,hm])
      (by simp [describing,ht,hq]; rfl) (by rw [plainText,plainText])
  · exact readAlike_of (.html s) (by simp [ofMembers,ht,Style.ofName?,hm])
      (by simp [describing,ht,hq]; rfl) (by rw [plainText,plainText])

theorem readAlike_empty {ms : Members}
    (ht : typeName ms ∈ ["text","softbreak","linebreak","codespan","inline_html"])
    (hr : ms.get? "raw" = none) (hc : childValues ms = []) : ReadAlike ms := by
  have hq : memberText? ms "raw" = none := by simp [memberText?,hr]
  have hm : memberText ms "raw" = "" := by simp [memberText,hq]
  have hn : (spansOfChildren ms).2 = [] := by rw [spansOfChildren_eq,hc,spansOfAll]
  simp only [List.mem_cons,List.not_mem_nil,or_false] at ht
  rcases ht with ht | ht | ht | ht | ht
  · exact readAlike_of (.text "") (by simp [ofMembers,ht,Style.ofName?,hm])
      (by simp [describing,ht,hm]) rfl
  · exact readAlike_of .softBreak (by simp [ofMembers,ht,Style.ofName?])
      (by simp [describing,ht]) rfl
  · exact readAlike_of .lineBreak (by simp [ofMembers,ht,Style.ofName?])
      (by simp [describing,ht,hq,hn]; rfl) (by rw [plainText,plainText,plainTexts])
  · exact readAlike_of (.code "") (by simp [ofMembers,ht,Style.ofName?,hm])
      (by simp [describing,ht,hq,hn]; rfl) (by rw [plainText,plainText,plainTexts])
  · exact readAlike_of (.html "") (by simp [ofMembers,ht,Style.ofName?,hm])
      (by simp [describing,ht,hq,hn]; rfl) (by rw [plainText,plainText,plainTexts])

theorem readAlike_nested {ms : Members}
    (ht : typeName ms ∈ ["strong","emphasis","strikethrough","link"]) (hr : ms.get? "raw" = none)
    (h : ∀ inner, Value.object inner ∈ childValues ms → ReadAlike inner) : ReadAlike ms := by
  obtain ⟨hi,hp⟩ := readAlike_row h
  rw [← spansOfChildren_eq] at hi hp
  have hq : memberText? ms "raw" = none := by simp [memberText?,hr]
  simp only [List.mem_cons,List.not_mem_nil,or_false] at ht
  rcases ht with ht | ht | ht | ht
  · exact readAlike_of (.styled .strong hi) (by simp [ofMembers,ht,Style.ofName?])
      (by simp [describing,ht,hq]; rfl) (by rw [plainText,plainText,hp])
  · exact readAlike_of (.styled .emphasis hi) (by simp [ofMembers,ht,Style.ofName?])
      (by simp [describing,ht,hq]; rfl) (by rw [plainText,plainText,hp])
  · exact readAlike_of (.styled .strikethrough hi) (by simp [ofMembers,ht,Style.ofName?])
      (by simp [describing,ht,hq]; rfl) (by rw [plainText,plainText,hp])
  · exact readAlike_of
      (.link (memberText (attributes ms) "url") (memberText? (attributes ms) "title") hi)
      (by simp [ofMembers,ht,Style.ofName?])
      (by simp [describing,ht,hq]; rfl) (by rw [plainText,plainText,hp])

theorem ImagelessToken.readAlike {ms : Members} (h : ImagelessToken ms) : ReadAlike ms := by
  induction h with
  | raw ht hr => exact readAlike_raw ht hr
  | empty ht hr hc => exact readAlike_empty ht hr hc
  | nested ht hr _ ih => exact readAlike_nested ht hr ih

theorem toNode_image {ms : Members} {tokens : List Value} (ht : typeName ms = "image")
    (hc : ms.get? "children" = some (.list tokens)) (join : Bool) :
    toNode join (ofMembers ms (spansOfChildren ms).1 (spansOfChildren ms).2) =
      .leaf (.image (memberText (attributes ms) "url") (some (description (.list tokens)))
        (memberText? (attributes ms) "title")) [] := by
  have hv : childValues ms = tokens := by rw [childValues,hc]
  have ho : ofMembers ms (spansOfChildren ms).1 (spansOfChildren ms).2 =
      .image (memberText (attributes ms) "url") (memberText? (attributes ms) "title")
        (spansOfAll tokens).2 := by
    rw [spansOfChildren_eq,hv]
    simp [ofMembers,ht,Style.ofName?]
  rw [ho,toNode]
  rfl

/-- Without an image among the spans that are received as data, the description of an image that has
them inside is the raw text of a paragraph of their nodes, whether texts are joined or not. -/
theorem description_eq_rawText {tokens : List Value}
    (h : ∀ ms, Value.object ms ∈ tokens → ImagelessToken ms) (join : Bool) :
    (description (.list tokens)).toList =
        (Node.container .paragraph (content join (ofValue (.list tokens))) []).rawText ∧
      ∀ ms, typeName ms = "image" → ms.get? "children" = some (.list tokens) →
        toNode join (ofMembers ms (spansOfChildren ms).1 (spansOfChildren ms).2) =
          .leaf (.image (memberText (attributes ms) "url") (some (description (.list tokens)))
            (memberText? (attributes ms) "title")) [] := by
  obtain ⟨hi,hp⟩ := readAlike_row fun ms hm => (h ms hm).readAlike
  refine ⟨?_,fun ms ht hc => toNode_image ht hc join⟩
  rw [rawText,description,spansOf,hp]
  exact toList_plainTexts fun s hs => toList_plainText (hi s hs) join

def sampleWord (kind raw : String) : Members := [("type",.text kind),("raw",.text raw)]

def sampleBreak (kind : String) : Members := [("type",.text kind)]

def sampleStrong : Members :=
  [("type",.text "strong"),("children",.list [.object (sampleWord "text" "b"),
    .object (sampleBreak "softbreak"),.object (sampleWord "codespan" "&amp;")])]

def sampleLink : Members :=
  [("type",.text "link"),("attrs",.object [("url",.text "u")]),
    ("children",.list [.object sampleStrong,.object (sampleWord "inline_html" "<i>")])]

def sampleTokens : List Value :=
  [.object (sampleWord "text" "a &amp; "),.object (sampleWord "text" "&lt;"),.int 7,
    .object sampleLink,.object (sampleBreak "linebreak")]

theorem description_eq_rawText_sampleTokens :
    (∀ ms, Value.object ms ∈ sampleTokens → ImagelessToken ms) ∧
    description (.list sampleTokens) = "a & <b\n&amp;<i>" ∧
    (Node.container .paragraph (content true (ofValue (.list sampleTokens))) []).rawText =
      "a & <b\n&amp;<i>".toList ∧
    (Node.container .paragraph (content false (ofValue (.list sampleTokens))) []).rawText =
      "a & <b\n&amp;<i>".toList := by
  have hs : ImagelessToken sampleStrong := by
    refine .nested (by decide) rfl fun inner hm => ?_
    simp only [sampleStrong,childValues,Members.get?_cons,String.reduceEq,if_false,if_true,
      List.mem_cons,List.not_mem_nil,or_false,Value.object.injEq] at hm
    rcases hm with rfl | rfl | rfl
    · exact .raw (by decide) rfl
    · exact .empty (by decide) rfl rfl
    · exact .raw (by decide) rfl
  have hl : ImagelessToken sampleLink := by
    refine .nested (by decide) rfl fun inner hm => ?_
    simp only [sampleLink,childValues,Members.get?_cons,String.reduceEq,if_false,if_true,
      List.mem_cons,List.not_mem_nil,or_false,Value.object.injEq] at hm
    rcases hm with rfl | rfl
    · exact hs
    · exact .raw (by decide) rfl
  have h : ∀ ms, Value.object ms ∈ sampleTokens → ImagelessToken ms := by
    intro ms hm
    simp only [sampleTokens,List.mem_cons,List.not_mem_nil,or_false,Value.object.injEq,
      reduceCtorEq,false_or] at hm
    rcases hm with rfl | rfl | rfl | rfl
    · exact .raw (by decide) rfl
    · exact .raw (by decide) rfl
    · exact hl
    · exact .empty (by decide) rfl rfl
  have hd : description (.list sampleTokens) = "a & <b\n&amp;<i>" := by decide
  have ht := (description_eq_rawText h true).1
  have hf := (description_eq_rawText h false).1
  rw [hd] at ht hf
  exact ⟨h,hd,ht.symm,hf.symm⟩

end Span

end ChatMarkup.Markdown
