import ChatMarkup.Proofs.Settings.Precedence

/-!
# Settings of a configuration are checked once

Each known setting of a configuration is turned into a value of its kind, or refused. A value that
is of its kind already stays as it is, so the settings that are read can be read again without a
change, and each of them is a known setting of the right kind. They make options, or are refused
as bad values.

A refusal is that of the first setting that cannot be turned into its kind. It is a refused setting
unless an infinite number was given for a number, which is an overflow, or a whole number is too
long to be written where the value is read as text or named in the refusal, which is a bad value.
-/
namespace ChatMarkup.Settings
open Members
variable {name k : String} {kind : SettingKind} {v w : Value} {flat own settings : Members}

/-! ## Values of a kind -/

inductive OfKind : SettingKind → Value → Prop
  | flag (b : Bool) : OfKind .flag (.bool b)
  | number (n : Int) : OfKind .number (.int n)
  | text (s : String) : OfKind .text (.text s)

theorem textOf_eq_ok {s : String} : textOf v = .ok s ↔ v.hasLongNumber = false ∧ v.plain = s := by
  unfold textOf
  cases v.hasLongNumber <;> simp

theorem textOf_eq_error {e : SettingError} :
    textOf v = .error e ↔ v.hasLongNumber = true ∧ e = .longNumber := by
  unfold textOf
  cases v.hasLongNumber <;> simp [eq_comm]

def wordFlag (name : String) (given : Value) (word : String) : Except SettingError Value :=
  if yesWords.contains word then .ok (.bool true)
  else if noWords.contains word then .ok (.bool false)
  else .error (.notFlag name given)

/-- A value that is no flag is read as a word. -/
theorem flagOf_of_ne (h : ∀ b, v ≠ .bool b) (name : String) :
    flagOf name v = textOf v >>= fun s =>
      wordFlag name v (String.ofList ((Text.trim s.toList).map Char.toLower)) := by
  cases v with
  | bool b => exact absurd rfl (h b)
  | _ => rfl

theorem bool_or_ne (v : Value) : (∃ b, v = .bool b) ∨ ∀ b, v ≠ .bool b := by
  cases v <;> simp

theorem wordFlag_cases (name : String) (v : Value) (word : String) :
    (∃ b, wordFlag name v word = .ok (.bool b)) ∨
      wordFlag name v word = .error (.notFlag name v) := by
  unfold wordFlag
  split_ifs <;> simp

/-- What a value is turned into is of the kind that was asked for. -/
theorem ofKind_of_coerce (h : coerce name kind v = .ok w) : OfKind kind w := by
  cases kind with
  | flag =>
    change flagOf name v = .ok w at h
    rcases bool_or_ne v with ⟨b,rfl⟩ | hv
    · obtain rfl := Except.ok.inj h
      exact .flag b
    · rw [flagOf_of_ne hv,bind_eq_ok] at h
      obtain ⟨s,-,h⟩ := h
      rcases wordFlag_cases name v (String.ofList ((Text.trim s.toList).map Char.toLower)) with
        ⟨b,hb⟩ | he
      · obtain rfl := Except.ok.inj (hb.symm.trans h)
        exact .flag b
      · rw [he] at h
        cases h
  | number =>
    change numberOf name v = .ok w at h
    unfold numberOf at h
    split at h
    · obtain rfl := Except.ok.inj h
      exact .number _
    · split at h
      · obtain rfl := Except.ok.inj h
        exact .number _
      · cases h
    · split at h
      · obtain rfl := Except.ok.inj h
        exact .number _
      · cases h
    · cases h
  | text =>
    obtain ⟨s,-,rfl⟩ := map_eq_ok.mp h
    exact .text s

/-- A value of the kind that is asked for stays as it is. -/
theorem coerce_of_ofKind (h : OfKind kind v) (name : String) : coerce name kind v = .ok v := by
  cases h <;> rfl

/-! ## Refusals -/

theorem flagOf_eq_error {e : SettingError} (h : flagOf name v = .error e) :
    (v.hasLongNumber = true ∧ e = .longNumber) ∨
      (v.hasLongNumber = false ∧ e = .notFlag name v) := by
  rcases bool_or_ne v with ⟨b,rfl⟩ | hv
  · cases h
  · rw [flagOf_of_ne hv,bind_eq_error] at h
    rcases h with h | ⟨s,hs,h⟩
    · exact .inl (textOf_eq_error.mp h)
    · right
      refine ⟨(textOf_eq_ok.mp hs).1,?_⟩
      rcases wordFlag_cases name v (String.ofList ((Text.trim s.toList).map Char.toLower)) with
        ⟨b,hb⟩ | he
      · rw [hb] at h
        cases h
      · exact Except.error.inj (h.symm.trans he)

/-- A number is asked for, and a value is given that is an infinity. -/
def IsInfinite (kind : SettingKind) (v : Value) : Prop :=
  kind = .number ∧ ∃ negative, v = .float (.infinity negative)

/-- The value has to be written, as a text or in a refusal, and a number in it is too long. A number
that is asked for need not be written. -/
def IsTooLong (kind : SettingKind) (v : Value) : Prop :=
  v.hasLongNumber = true ∧ (kind = .number → ∀ n, v ≠ .int n)

/-- The wording of a refusal names the setting and the value that was given. -/
def SettingError.Names (name : String) (given : Value) (e : SettingError) : Prop :=
  e = .notFlag name given ∨ e = .notNumber name given

/-- A value is refused as an infinity, or for a number that is too long, or by its name. -/
theorem coerce_eq_error {e : SettingError} (h : coerce name kind v = .error e) :
    (e = .infinite ∧ IsInfinite kind v) ∨ (e = .longNumber ∧ IsTooLong kind v) ∨
      (e.Names name v ∧ ¬ IsInfinite kind v ∧ ¬ IsTooLong kind v) := by
  cases kind with
  | flag =>
    rcases flagOf_eq_error h with ⟨hl,rfl⟩ | ⟨hl,rfl⟩
    · exact .inr (.inl ⟨rfl,hl,by simp⟩)
    · exact .inr (.inr ⟨.inl rfl,by simp [IsInfinite],by simp [IsTooLong,hl]⟩)
  | number =>
    change numberOf name v = .error e at h
    unfold numberOf at h
    split at h
    · cases h
    · next x =>
      split at h
      · cases h
      · next hx =>
        cases x with
        | finite s m q => cases hx
        | infinity s => exact .inl ⟨(Except.error.inj h).symm,rfl,s,rfl⟩
        | nan =>
          obtain rfl := Except.error.inj h
          exact .inr (.inr ⟨.inr rfl,by simp [IsInfinite],by simp [IsTooLong,Value.hasLongNumber]⟩)
    · split at h
      · cases h
      · obtain rfl := Except.error.inj h
        exact .inr (.inr ⟨.inr rfl,by simp [IsInfinite],by simp [IsTooLong,Value.hasLongNumber]⟩)
    · next hi hf _ =>
      obtain rfl := Except.error.inj h
      have hn : ¬ IsInfinite .number v := fun ⟨_,s,hs⟩ => hf _ hs
      cases hl : v.hasLongNumber with
      | true => exact .inr (.inl ⟨rfl,hl,fun _ => hi⟩)
      | false => exact .inr (.inr ⟨.inr rfl,hn,by simp [IsTooLong,hl]⟩)
  | text =>
    obtain ⟨hl,rfl⟩ := textOf_eq_error.mp (map_eq_error.mp h)
    exact .inr (.inl ⟨rfl,hl,by simp⟩)

/-! ## Reading settings -/

/-- The settings with one more member of a configuration read. -/
def takeIn (own : Members) (m : String × Value) : Except SettingError Members :=
  match known.lookup (settingName m.1) with
  | none => .ok own
  | some kind =>
    (coerce (settingName m.1) kind m.2).map fun v => Members.set own (settingName m.1) v

theorem takeIn_unknown {m : String × Value} (h : known.lookup (settingName m.1) = none)
    (own : Members) : takeIn own m = .ok own := by
  rw [takeIn,h]

theorem takeIn_known {m : String × Value} (h : known.lookup (settingName m.1) = some kind)
    (own : Members) :
    takeIn own m = (coerce (settingName m.1) kind m.2).map fun v =>
      Members.set own (settingName m.1) v := by
  rw [takeIn,h]

theorem validate_concat (flat : Members) (m : String × Value) :
    validate (flat ++ [m]) = validate flat >>= fun own => takeIn own m := by
  rw [validate,List.foldlM_append]
  refine congrArg _ (funext fun own => ?_)
  rw [List.foldlM_cons]
  simp only [List.foldlM_nil]
  exact bind_pure _

/-- Settings are refused as the first of them that cannot be turned into its kind. -/
theorem validate_eq_error_iff {e : SettingError} :
    validate flat = .error e ↔
      ∃ before m after kind, flat = before ++ m :: after ∧ (∃ own, validate before = .ok own) ∧
        known.lookup (settingName m.1) = some kind ∧
        coerce (settingName m.1) kind m.2 = .error e := by
  induction flat using List.reverseRecOn with
  | nil =>
    refine iff_of_false (fun h => by cases h) ?_
    rintro ⟨before,m,after,kind,h,-⟩
    simp at h
  | append_singleton flat m ih =>
    rw [validate_concat,bind_eq_error]
    constructor
    · rintro (h | ⟨own,ho,h⟩)
      · obtain ⟨before,x,after,kind,rfl,hr⟩ := ih.mp h
        exact ⟨before,x,after ++ [m],kind,by simp,hr⟩
      · cases hk : known.lookup (settingName m.1) with
        | none =>
          rw [takeIn_unknown hk] at h
          cases h
        | some kind =>
          rw [takeIn_known hk] at h
          exact ⟨flat,m,[],kind,rfl,⟨own,ho⟩,hk,map_eq_error.mp h⟩
    · rintro ⟨before,x,after,kind,he,hb,hk,hx⟩
      rcases List.eq_nil_or_concat after with rfl | ⟨after,y,rfl⟩
      · obtain ⟨rfl,hm⟩ := List.append_inj' he rfl
        obtain rfl := List.singleton_inj.mp hm
        obtain ⟨own,ho⟩ := hb
        exact .inr ⟨own,ho,(takeIn_known hk own).trans (map_eq_error.mpr hx)⟩
      · rw [List.concat_eq_append,← List.cons_append,← List.append_assoc] at he
        obtain ⟨rfl,-⟩ := List.append_inj' he rfl
        exact .inl (ih.mpr ⟨before,x,after,kind,rfl,hb,hk,hx⟩)

/-- The settings are known, each of them once, and their values are of their kinds. -/
structure WellTyped (own : Members) : Prop where
  nodup : (keys own).Nodup
  typed : ∀ m ∈ own, ∃ kind, known.lookup m.1 = some kind ∧ OfKind kind m.2

theorem wellTyped_of_validate (h : validate flat = .ok own) : WellTyped own := by
  induction flat using List.reverseRecOn generalizing own with
  | nil =>
    obtain rfl := Except.ok.inj h
    exact ⟨nodup_keys_nil,by simp⟩
  | append_singleton flat m ih =>
    rw [validate_concat,bind_eq_ok] at h
    obtain ⟨before,hb,h⟩ := h
    have hw := ih hb
    cases hk : known.lookup (settingName m.1) with
    | none =>
      rw [takeIn_unknown hk] at h
      obtain rfl := Except.ok.inj h
      exact hw
    | some kind =>
      rw [takeIn_known hk] at h
      obtain ⟨v,hv,rfl⟩ := map_eq_ok.mp h
      refine ⟨nodup_set hw.nodup _ v,fun x hx => ?_⟩
      rcases mem_of_mem_set hx with hx | rfl
      · exact hw.typed x hx
      · exact ⟨kind,hk,ofKind_of_coerce hv⟩

/-- Names of settings have no hyphens. -/
theorem settingName_of_known (h : known.lookup k = some kind) : settingName k = k := by
  obtain ⟨l₁,l₂,he,-⟩ := List.lookup_eq_some_iff.mp h
  have hn : ∀ s ∈ known, settingName s.1 = s.1 := by decide
  exact hn (k,kind) (by simp [he])

/-- Settings that are well typed are read without a change. -/
theorem WellTyped.validate_eq (h : WellTyped own) : validate own = .ok own := by
  induction own using List.reverseRecOn with
  | nil => rfl
  | append_singleton own m ih =>
    have hw : WellTyped own :=
      ⟨(List.nodup_append.mp (keys_append own [m] ▸ h.nodup)).1,
        fun x hx => h.typed x (List.mem_append_left _ hx)⟩
    have hm : m.1 ∉ keys own := fun hm => by
      have hn := h.nodup
      rw [keys_append,List.nodup_append] at hn
      exact hn.2.2 _ hm m.1 (by simp [keys]) rfl
    obtain ⟨kind,hk,hv⟩ := h.typed m (by simp)
    have hs := settingName_of_known hk
    have ht : takeIn own m = .ok (own ++ [m]) := by
      rw [takeIn_known (hs.symm ▸ hk),hs,coerce_of_ofKind hv,Except.map,set_of_notMem hm]
    rw [validate_concat,ih hw]
    exact ht

/-! ## Options -/

section
variable {e : OptionError} {given : Members}

/-- The refusal is that of a value, and not of a name that options do not have. -/
def RefusesValue (e : OptionError) : Prop := ∀ name, e ≠ .unknownName name

theorem RefusesValue.toFailure_kind (h : RefusesValue e) : e.toFailure.kind = .badValue := by
  cases e with
  | unknownName name => exact absurd rfl (h name)
  | _ => rfl

theorem checkNames_filter {few names : List String} (h : few ⊆ names) (settings : Members) :
    checkNames names (settings.filter fun m => few.contains m.1) = .ok () := by
  have hn : (settings.filter fun m => few.contains m.1).find? (fun m => !names.contains m.1) =
      none := by
    rw [List.find?_eq_none]
    intro m hm
    have := (List.mem_filter.mp hm).2
    simpa using h (by simpa using this)
  rw [checkNames,hn]

theorem refusesValue_tableMode (h : TableMode.ofName v = .error e) : RefusesValue e := by
  unfold TableMode.ofName at h
  dsimp only at h
  split at h
  · cases h
  · obtain rfl := Except.error.inj h
    exact fun _ => nofun

theorem refusesValue_strategy (h : Strategy.ofName v = .error e) : RefusesValue e := by
  unfold Strategy.ofName at h
  split at h
  · cases h
  · cases h
  · obtain rfl := Except.error.inj h
    exact fun _ => nofun

theorem refusesValue_charLimit (h : CharLimit.ofValue v = .error e) : RefusesValue e := by
  unfold CharLimit.ofValue at h
  split at h
  · split at h
    · obtain rfl := Except.error.inj h
      exact fun _ => nofun
    · cases h
  · obtain rfl := Except.error.inj h
    exact fun _ => nofun

theorem refusesValue_fieldName {option : String} (h : MessageOptions.fieldName option v = .error e) :
    RefusesValue e := by
  unfold MessageOptions.fieldName at h
  split at h
  · cases h
  · obtain rfl := Except.error.inj h
    exact fun _ => nofun

/-- A value that may be missing is refused only if it is there. -/
theorem refusesValue_elim {α : Type} {o : Option Value} {a : α} {f : Value → Except OptionError α}
    (hf : ∀ v, f v = .error e → RefusesValue e)
    (h : o.elim (pure a) f = .error e) : RefusesValue e := by
  cases o with
  | none => cases h
  | some v => exact hf v h

theorem refusesValue_renderOptions {o : RenderOptions}
    (hc : checkNames RenderOptions.names given = .ok ()) (h : o.update given = .error e) :
    RefusesValue e := by
  simp only [RenderOptions.update,hc,bind_eq_error] at h
  rcases h with h | ⟨_,-,h⟩
  · cases h
  · split at h
    · rcases bind_eq_error.mp h with h | ⟨_,-,h⟩
      · exact refusesValue_tableMode h
      · cases h
    · cases h

theorem update_markdown {o : Markdown.Options}
    (hc : checkNames Markdown.Options.names given = .ok ()) : ∃ o', o.update given = .ok o' := by
  simp only [Markdown.Options.update,hc]
  exact ⟨_,rfl⟩

theorem refusesValue_messageOptions {o : MessageOptions}
    (hc : checkNames MessageOptions.names given = .ok ()) (hr : given.get? "renderer" = none)
    (hp : given.get? "parser" = none) (h : o.update given = .error e) :
    RefusesValue e := by
  simp only [MessageOptions.update,MessageOptions.part,hr,hp,hc,bind_eq_error] at h
  rcases h with h | ⟨_,-,h | ⟨_,-,h | ⟨_,-,h | ⟨_,-,h | ⟨_,-,h | ⟨_,-,h | ⟨_,-,h⟩⟩⟩⟩⟩⟩⟩
  · cases h
  · cases h
  · cases h
  · exact refusesValue_elim (fun _ => refusesValue_strategy) h
  · exact refusesValue_elim (fun _ => refusesValue_charLimit) h
  · exact refusesValue_elim (fun _ => refusesValue_fieldName) h
  · exact refusesValue_elim (fun _ => refusesValue_fieldName) h
  · cases h

end

theorem get?_filter_of_notMem {names : List String} {key : String} (h : key ∉ names)
    (settings : Members) : get? (settings.filter fun m => names.contains m.1) key = none := by
  rw [get?_eq_none_iff]
  intro hm
  obtain ⟨m,hf,rfl⟩ := List.mem_map.mp hm
  exact h (by simpa using (List.mem_filter.mp hf).2)

/-- Settings make options, or are refused for one of their values. -/
theorem options_outcomes (settings : Members) :
    (∃ o, options settings = .ok o) ∨
      ∃ e, options settings = .error e ∧ e.toFailure.kind = .badValue := by
  cases h : options settings with
  | ok o => exact .inl ⟨o,rfl⟩
  | error e =>
    refine .inr ⟨e,rfl,RefusesValue.toFailure_kind ?_⟩
    simp only [options,bind_eq_error] at h
    rcases h with h | ⟨renderer,-,h | ⟨parser,-,h⟩⟩
    · exact refusesValue_renderOptions (checkNames_filter (List.Subset.refl _) settings) h
    · obtain ⟨o,ho⟩ := update_markdown (o := {})
        (checkNames_filter (List.Subset.refl Markdown.Options.names) settings)
      rw [ho] at h
      cases h
    · exact refusesValue_messageOptions
        (checkNames_filter (List.subset_append_left _ _) settings)
        (get?_filter_of_notMem (by decide) settings) (get?_filter_of_notMem (by decide) settings) h

/-! ## Outcomes -/

/-- Reading the settings of a configuration gives settings that are well typed, that are read again
without a change, and that make options or are refused as bad values. Or it is refused as the first
setting that cannot be turned into its kind: as an overflow for an infinite number, as a bad value
for a number that is too long, and otherwise as a setting. -/
theorem validate_outcomes (flat : Members) :
    (∃ own, validate flat = .ok own ∧ WellTyped own ∧ validate own = .ok own ∧
      ((∃ o, options own = .ok o) ∨
        ∃ e, options own = .error e ∧ e.toFailure.kind = .badValue)) ∨
    ∃ e before m after kind, validate flat = .error e ∧ flat = before ++ m :: after ∧
      (∃ own, validate before = .ok own) ∧ known.lookup (settingName m.1) = some kind ∧
      ((e.toFailure.kind = .overflow ∧ IsInfinite kind m.2) ∨
        (e.toFailure.kind = .badValue ∧ IsTooLong kind m.2) ∨
        (e.toFailure.kind = .setting ∧ ¬ IsInfinite kind m.2 ∧ ¬ IsTooLong kind m.2)) := by
  cases h : validate flat with
  | ok own =>
    have hw := wellTyped_of_validate h
    exact .inl ⟨own,rfl,hw,hw.validate_eq,options_outcomes own⟩
  | error e =>
    obtain ⟨before,m,after,kind,hf,hb,hk,hc⟩ := validate_eq_error_iff.mp h
    refine .inr ⟨e,before,m,after,kind,rfl,hf,hb,hk,?_⟩
    rcases coerce_eq_error hc with ⟨rfl,hi⟩ | ⟨rfl,hl⟩ | ⟨hn,hr⟩
    · exact .inl ⟨rfl,hi⟩
    · exact .inr (.inl ⟨rfl,hl⟩)
    · refine .inr (.inr ⟨?_,hr⟩)
      rcases hn with rfl | rfl <;> rfl

/-- Where no known setting is given an infinite number or one that is too long, all that is refused
is refused as a setting. -/
theorem validate_of_finite (h : ∀ m ∈ flat, ∀ kind, known.lookup (settingName m.1) = some kind →
      ¬ IsInfinite kind m.2 ∧ ¬ IsTooLong kind m.2) :
    (∃ own, validate flat = .ok own) ∨
      ∃ e, validate flat = .error e ∧ e.toFailure.kind = .setting := by
  rcases validate_outcomes flat with ⟨own,ho,-⟩ | ⟨e,before,m,after,kind,he,rfl,-,hk,hc⟩
  · exact .inl ⟨own,ho⟩
  · obtain ⟨hi,hl⟩ := h m (by simp) kind hk
    rcases hc with ⟨-,hc⟩ | ⟨-,hc⟩ | ⟨hc,-⟩
    · exact absurd hc hi
    · exact absurd hc hl
    · exact .inr ⟨e,he,hc⟩

/-- An infinite limit is refused as an overflow, and not as a setting. -/
theorem validate_infiniteLimit :
    ∃ e, validate [("char_limit",.float (.infinity false))] = .error e ∧
      e.toFailure.kind = .overflow :=
  ⟨.infinite,by rfl,rfl⟩

end ChatMarkup.Settings
