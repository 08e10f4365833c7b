import ChatMarkup.Proofs.Tree.Loading
import ChatMarkup.Tree.Document

/-!
# How the reading of a document fails

A text that is empty or no JSON fails in the stage of parsing, and a tree of the wrong shape in the
stage of loading; either failure names its stage. A number of too many digits counts for the second
stage, whether it is in the text or in the tree. There are two places where a reading takes for
granted what kind of plain value it finds: the rank of a heading, which the strict reading compares
with numbers, and the alignment of a table, which both readings go through item by item. A value of
another kind there is reported as what it is, and not as a failure of parsing.
-/
namespace ChatMarkup.Node
open Value

/-- A plain value stands where its kind is taken for granted. -/
inductive Misplaced (mode : LoadMode) : Value → Prop
  | depth {ms : Members} {v : Value} : mode = .strict → tag? ms = some "heading" →
      ms.get? "depth" = some v → Depth.ofValue? v = none → Misplaced mode (.object ms)
  | align {ms : Members} {v : Value} : tag? ms = some "table" → ms.get? "align" = some v →
      isNonzero v = true → Misplaced mode (.object ms)

theorem Refuses.misplaced {mode : LoadMode} {w : Value} {e : LoadError} (h : Refuses mode w e)
    (he : e.isStructural = false) : Misplaced mode w := by
  cases h with
  | depthKind hm ht hv hd => exact .depth hm ht hv hd
  | alignKind ht hv hz => exact .align ht hv hz
  | _ => cases he

theorem isDocument_toDocument (n : Node) : n.toDocument.isDocument = true := by
  unfold toDocument
  split
  · assumption
  · rfl

/-- A text gives a document, or fails in the stage that it did not get through, or has a plain value
in it that stands where its kind is taken for granted. -/
theorem documentOfJson_ends (o : TreeOptions) (text : String) :
    (∃ n, documentOfJson o text = .ok n ∧ n.isDocument = true) ∨
      ∃ f, documentOfJson o text = .error f ∧
        ((f.kind = .parsing (some "json_parsing") ∧
            (Text.trim text.toList = [] ∨
              ∃ fault position, Json.read text = .error (.malformed fault position))) ∨
          (f.kind = .parsing (some "ast_deserialization") ∧
            ∃ digits, Json.read text = .error (.longNumber digits)) ∨
          ∃ v w, Json.read text = .ok v ∧ Inside w v ∧
            ((f.kind = .parsing (some "ast_deserialization") ∧
                ∃ e, Refuses o.loadMode w e ∧ e.isStructural = true) ∨
              (f.kind = .badType ∧ Misplaced o.loadMode w))) := by
  unfold documentOfJson
  split
  · next hb => exact .inr ⟨_,rfl,.inl ⟨rfl,.inl (List.isEmpty_iff.mp hb)⟩⟩
  cases hr : Json.read text with
  | error problem =>
    refine .inr ⟨_,rfl,?_⟩
    cases problem with
    | malformed fault position => exact .inl ⟨rfl,.inr ⟨fault,position,rfl⟩⟩
    | longNumber digits => exact .inr (.inl ⟨rfl,digits,rfl⟩)
  | ok v =>
    cases hl : load o.loadMode v with
    | ok n =>
      refine .inl ⟨n.toDocument,?_,isDocument_toDocument n⟩
      simp [Except.mapError,bind,Except.bind,hl,pure,Except.pure]
    | error e =>
      obtain ⟨w,hw,he⟩ := exists_refuses hl
      refine .inr ⟨notTree e,?_,.inr (.inr ⟨v,w,rfl,hw,?_⟩)⟩
      · simp [Except.mapError,bind,Except.bind,hl]
      · cases hs : e.isStructural with
        | true =>
          refine .inl ⟨?_,e,he,hs⟩
          rw [notTree,if_pos hs]
          rfl
        | false =>
          refine .inr ⟨?_,he.misplaced hs⟩
          simp [notTree,LoadError.toFailure,hs,Failure.plain,Failure.kind]

/-- Where no plain value is misplaced, a text gives a document or fails as a text that cannot be
parsed, in the stage that it did not get through. -/
theorem documentOfJson_of_placed (o : TreeOptions) (text : String)
    (h : ∀ v, Json.read text = .ok v → ∀ w, Inside w v → ¬Misplaced o.loadMode w) :
    (∃ n, documentOfJson o text = .ok n ∧ n.isDocument = true) ∨
      ∃ f, documentOfJson o text = .error f ∧ (f.kind = .parsing (some "json_parsing") ∨
        f.kind = .parsing (some "ast_deserialization")) := by
  rcases documentOfJson_ends o text with hn | ⟨f,hf,⟨hk,-⟩ | ⟨hk,-⟩ |
    ⟨v,w,hv,hw,⟨hk,-⟩ | ⟨-,hm⟩⟩⟩
  · exact .inl hn
  · exact .inr ⟨f,hf,.inl hk⟩
  · exact .inr ⟨f,hf,.inr hk⟩
  · exact .inr ⟨f,hf,.inr hk⟩
  · exact absurd hm (h v hv w hw)

/-! ## Failures that are no failures of parsing -/

section
variable {ms : Members} {v : Value}

/-- In a heading that is well-formed otherwise, a rank that is no number is compared with one. -/
theorem load_of_depth (ht : tag? ms = some "heading") (hv : ms.get? "depth" = some v)
    (hd : Depth.ofValue? v = none) {cs : List Node}
    (hr : loadRow .strict "children" (.text "heading") ms = .ok cs) :
    load .strict (.object ms) = .error (.depthKind v.kindName) := by
  have hh : headingDepth .strict ms = .error (.depthKind v.kindName) := by
    simp only [headingDepth,hv,Option.getD_some,hd]
  rw [load.eq_def]
  simp [ht,leafOf?,containerOf?,hr,hh,bind,Except.bind,Except.map]

theorem alignment_of_nonzero (hv : ms.get? "align" = some v) (hz : isNonzero v = true) :
    alignment ms = .error (.alignKind v.kindName) := by
  unfold alignment
  rw [hv]
  cases v with
  | bool b => exact if_pos hz
  | int n => exact if_pos hz
  | float x => exact if_pos hz
  | _ => cases hz

/-- In a table that is well-formed otherwise, a number is gone through for the alignment. -/
theorem load_of_align {mode : LoadMode} (ht : tag? ms = some "table")
    (hv : ms.get? "align" = some v) (hz : isNonzero v = true) {header : Option Node}
    {body rows : List Node} (hh : loadHeader mode ms = .ok header)
    (hb : loadRow mode "children" (.text "table") ms = .ok body)
    (hr : loadRow mode "rows" (.text "table") ms = .ok rows) :
    load mode (.object ms) = .error (.alignKind v.kindName) := by
  rw [load.eq_def]
  simp [ht,leafOf?,hh,hb,hr,alignment_of_nonzero hv hz,bind,Except.bind]

end

/-- A failure that is not about the shape of the tree is reported as a value of the wrong kind. -/
theorem documentOfJson_of_error {o : TreeOptions} {text : String} {v : Value} {e : LoadError}
    (hn : Text.trim text.toList ≠ []) (hj : Json.read text = .ok v)
    (hl : load o.loadMode v = .error e) (he : e.isStructural = false) :
    documentOfJson o text = .error (.plain .badType e.message) := by
  unfold documentOfJson
  rw [if_neg (by simpa using hn),hj]
  simp [Except.mapError,bind,Except.bind,hl,notTree,LoadError.toFailure,he]

def misplacedText : String := "\x7b\"type\": \"heading\", \"depth\": \"2\"\x7d"

theorem documentOfJson_misplacedText : documentOfJson {} misplacedText =
    .error (.plain .badType "'<=' not supported between instances of 'int' and 'str'") := by
  have hn : Text.trim misplacedText.toList ≠ [] := by decide
  have hj : Json.read misplacedText =
      .ok (.object [("type",.text "heading"),("depth",.text "2")]) := rfl
  exact documentOfJson_of_error (o := {}) hn hj (load_of_depth rfl rfl rfl rfl) rfl

end ChatMarkup.Node
