import ChatMarkup.Proofs.Data.Members
import ChatMarkup.Proofs.Data.Outcomes
import ChatMarkup.Settings.Configuration
import Mathlib.Data.List.Find

/-!
# The layer that a setting comes from

Flags win over variables, and variables over the configuration. Within the configuration names are
compared twice: letter by letter when its sections are put together with what stands outside, and
with hyphens as underscores when the settings are read from the whole. A spelling thus has the
value of the highest part that has it, but of two spellings of one setting the one wins that first
appears later, whatever its part. Where a setting is spelled in one way throughout, what stands
outside wins over the parser's section and this over the renderer's.
-/
namespace ChatMarkup.Settings
open Members
variable {own settings : Members} {k : String} {kind : SettingKind}

/-! ## Settings from entries -/

/-- Settings from entries, each of them a name with the value or the refusal that it comes to. -/
def collect (entries : List (String × Except SettingError Value)) :
    Except SettingError Members :=
  entries.foldlM (fun settings e => e.2.map fun v => Members.set settings e.1 v) []

theorem collect_nil : collect [] = .ok [] := rfl

theorem collect_concat_eq_ok {es : List (String × Except SettingError Value)}
    {e : String × Except SettingError Value} :
    collect (es ++ [e]) = .ok settings ↔
      ∃ own v, collect es = .ok own ∧ e.2 = .ok v ∧ settings = Members.set own e.1 v := by
  have hc : collect (es ++ [e]) = collect es >>= fun own =>
      e.2.map fun v => Members.set own e.1 v := by
    rw [collect,List.foldlM_append]
    refine congrArg _ (funext fun own => ?_)
    rw [List.foldlM_cons]
    simp only [List.foldlM_nil]
    exact bind_pure _
  rw [hc,bind_eq_ok]
  simp only [map_eq_ok]
  constructor
  · rintro ⟨own,ho,v,hv,rfl⟩
    exact ⟨own,v,ho,hv,rfl⟩
  · rintro ⟨own,v,ho,hv,rfl⟩
    exact ⟨own,ho,v,hv,rfl⟩

/-- Entries make settings if none of them is a refusal. -/
theorem exists_collect_iff (es : List (String × Except SettingError Value)) :
    (∃ settings, collect es = .ok settings) ↔ ∀ e ∈ es, ∃ v, e.2 = .ok v := by
  induction es using List.reverseRecOn with
  | nil => simp [collect_nil]
  | append_singleton es e ih =>
    simp only [collect_concat_eq_ok]
    constructor
    · rintro ⟨_,own,v,ho,hv,-⟩ x hx
      rcases List.mem_append.mp hx with hx | hx
      · exact ih.mp ⟨own,ho⟩ x hx
      · exact ⟨v,List.mem_singleton.mp hx ▸ hv⟩
    · intro h
      obtain ⟨own,ho⟩ := ih.mpr fun x hx => h x (List.mem_append_left _ hx)
      obtain ⟨v,hv⟩ := h e (by simp)
      exact ⟨_,own,v,ho,hv,rfl⟩

/-- A setting has the value of the last entry for it. -/
theorem get?_collect {es : List (String × Except SettingError Value)}
    (h : collect es = .ok settings) (k : String) :
    (get? settings k).map Except.ok = es.reverse.lookup k := by
  induction es using List.reverseRecOn generalizing settings with
  | nil =>
    obtain rfl := Except.ok.inj h
    rfl
  | append_singleton es e ih =>
    obtain ⟨own,v,ho,hv,rfl⟩ := collect_concat_eq_ok.mp h
    obtain ⟨name,given⟩ := e
    obtain rfl : given = .ok v := hv
    rw [List.reverse_concat,List.lookup_cons,get?_set,← ih ho]
    by_cases hk : name = k
    · simp [hk]
    · simp [hk,beq_false_of_ne (Ne.symm hk)]

theorem nodup_collect {es : List (String × Except SettingError Value)}
    (h : collect es = .ok settings) : (keys settings).Nodup := by
  induction es using List.reverseRecOn generalizing settings with
  | nil =>
    obtain rfl := Except.ok.inj h
    exact nodup_keys_nil
  | append_singleton es e ih =>
    obtain ⟨own,v,ho,-,rfl⟩ := collect_concat_eq_ok.mp h
    exact nodup_set (ih ho) e.1 v

/-! ## Settings of a configuration -/

/-- What a member of a configuration sets, if it counts as a setting. -/
def configurationEntry (m : String × Value) : Option (String × Except SettingError Value) :=
  (known.lookup (settingName m.1)).map fun kind =>
    (settingName m.1,coerce (settingName m.1) kind m.2)

theorem validate_eq_collect (flat : Members) :
    validate flat = collect (flat.filterMap configurationEntry) := by
  rw [collect,List.foldlM_filterMap,validate]
  refine congrFun (congrFun (congrArg _ (funext fun settings => funext fun m => ?_)) _) _
  simp only [configurationEntry]
  cases known.lookup (settingName m.1) <;> rfl

/-- What members give a setting: the last of them counts that has its name, up to hyphens. -/
def given? (ms : Members) (k : String) : Option Value :=
  (ms.reverse.find? fun m => settingName m.1 == k).map Prod.snd

theorem given?_append (ms ns : Members) (k : String) :
    given? (ms ++ ns) k = (given? ns k).or (given? ms k) := by
  rw [given?,List.reverse_append,List.find?_append,Option.map_or]
  rfl

theorem lookup_configurationEntry (hk : known.lookup k = some kind) (ms : Members) :
    (ms.filterMap configurationEntry).lookup k =
      ((ms.find? fun m => settingName m.1 == k).map Prod.snd).map (coerce k kind) := by
  induction ms with
  | nil => rfl
  | cons m ms ih =>
    rw [List.find?_cons]
    by_cases h : settingName m.1 = k
    · simp [configurationEntry,h,hk]
    · rw [beq_false_of_ne h,← ih,List.filterMap_cons,configurationEntry]
      cases known.lookup (settingName m.1) with
      | none => rfl
      | some other => simp [List.lookup_cons,beq_false_of_ne (Ne.symm h)]

theorem get?_validate {flat : Members} (h : validate flat = .ok own)
    (hk : known.lookup k = some kind) :
    (get? own k).map Except.ok = (given? flat k).map (coerce k kind) := by
  rw [validate_eq_collect] at h
  rw [get?_collect h,← List.filterMap_reverse,lookup_configurationEntry hk,given?]

/-! ## Settings of variables -/

def variableEntry (environment : List (String × String)) (setting : String × SettingKind) :
    Option (String × Except SettingError Value) :=
  (environment.lookup (variableName setting.1)).map fun given =>
    (setting.1,coerce setting.1 setting.2 (.text given))

theorem ofVariables_eq_collect (environment : List (String × String)) :
    ofVariables environment = collect (known.filterMap (variableEntry environment)) := by
  rw [collect,List.foldlM_filterMap,ofVariables]
  refine congrFun (congrFun (congrArg _ (funext fun settings => funext fun s => ?_)) _) _
  simp only [variableEntry]
  cases environment.lookup (variableName s.1) <;> rfl

theorem lookup_variableEntry (environment : List (String × String))
    {table : List (String × SettingKind)} (hn : (table.map Prod.fst).Nodup) (k : String) :
    (table.filterMap (variableEntry environment)).reverse.lookup k =
      (table.lookup k).bind fun kind =>
        (environment.lookup (variableName k)).map fun given => coerce k kind (.text given) := by
  induction table with
  | nil => rfl
  | cons s table ih =>
    obtain ⟨hs,ht⟩ := List.nodup_cons.mp hn
    obtain ⟨name,kind⟩ := s
    rw [List.filterMap_cons,variableEntry,List.lookup_cons]
    by_cases h : k = name
    · subst h
      have hk : table.lookup k = none := by
        rw [List.lookup_eq_none_iff]
        intro p hp
        exact bne_iff_ne.mpr fun e => hs (List.mem_map.mpr ⟨p,hp,e.symm⟩)
      have hi := ih ht
      rw [hk,Option.bind_none] at hi
      cases environment.lookup (variableName k) with
      | none => simpa using hi
      | some given => simp [List.lookup_append,hi]
    · rw [beq_false_of_ne h,← ih ht]
      cases environment.lookup (variableName name) with
      | none => rfl
      | some given => simp [List.lookup_append,List.lookup_cons,beq_false_of_ne h]

theorem get?_ofVariables {environment : List (String × String)}
    (h : ofVariables environment = .ok settings) (hk : known.lookup k = some kind) :
    (get? settings k).map Except.ok =
      (environment.lookup (variableName k)).map fun given => coerce k kind (.text given) := by
  rw [ofVariables_eq_collect] at h
  rw [get?_collect h,lookup_variableEntry environment (by decide),hk,Option.bind_some]

/-! ## Parts of a configuration -/

def inSection (config : Members) (name : String) : Members :=
  match config.get? name with
  | some (.object ms) => ms
  | _ => []

def outside (config : Members) : Members := config.filter fun m => !sections.contains m.1

/-- All members of a configuration, from its lowest part to its highest. -/
def parts (config : Members) : Members :=
  inSection config "renderer" ++ inSection config "parser" ++ outside config

theorem flatten_eq_ofPairs (config : Members) : flatten config = ofPairs (parts config) := by
  have hi : inSection config "renderer" ++ inSection config "parser" =
      sections.flatMap (inSection config) := by
    simp [sections]
  rw [parts,hi]
  exact (setAll_append [] _ _).symm

/-- The spelling of a setting that counts: of those in the members, the one that first appears after
all others. -/
def spelling? (ms : Members) (k : String) : Option String :=
  (keys ms).eraseDups.reverse.find? fun name => settingName name == k

theorem spelling?_eq_none_iff {ms : Members} :
    spelling? ms k = none ↔ ∀ name ∈ keys ms, settingName name ≠ k := by
  simp [spelling?]

theorem of_spelling?_eq_some {ms : Members} {name : String} (h : spelling? ms k = some name) :
    name ∈ keys ms ∧ settingName name = k := by
  have hm := List.mem_of_find?_eq_some h
  have hk := List.find?_some h
  simp only [List.mem_reverse,List.mem_eraseDups] at hm
  exact ⟨hm,beq_iff_eq.mp hk⟩

/-- Of two spellings the one counts that first appears later, with the value that it has last. -/
theorem given?_ofPairs (ms : Members) (k : String) :
    given? (ofPairs ms) k = (spelling? ms k).bind (get? ms.reverse) := by
  have hv : ∀ name, get? (ofPairs ms) name = get? ms.reverse name := fun name => by
    rw [ofPairs,get?_setAll,get?_nil,Option.or_none]
  rw [given?,spelling?,← keys_ofPairs,keys,← List.map_reverse,List.find?_map]
  cases h : (ofPairs ms).reverse.find? fun m => settingName m.1 == k with
  | none => simp [h]
  | some m =>
    have hm := List.mem_reverse.mp (List.mem_of_find?_eq_some h)
    simp [h,← hv,get?_of_mem (nodup_ofPairs ms) hm]

def OneSpelling (ms : Members) (k : String) : Prop :=
  ∀ name ∈ keys ms, ∀ other ∈ keys ms, settingName name = k → settingName other = k → name = other

theorem given?_ofPairs_of_oneSpelling {ms : Members} (h : OneSpelling ms k) :
    given? (ofPairs ms) k = given? ms k := by
  rw [given?_ofPairs,given?]
  cases hs : spelling? ms k with
  | none =>
    have hn : ms.reverse.find? (fun m => settingName m.1 == k) = none := by
      rw [List.find?_eq_none]
      intro m hm
      simpa using spelling?_eq_none_iff.mp hs m.1
        (List.mem_map_of_mem (List.mem_reverse.mp hm))
    rw [hn]
    rfl
  | some name =>
    obtain ⟨hm,hk⟩ := of_spelling?_eq_some hs
    rw [Option.bind_some,get?_eq_find?]
    refine congrArg _ (List.find?_congr fun m hr => ?_)
    have hr' : m.1 ∈ keys ms := List.mem_map_of_mem (List.mem_reverse.mp hr)
    rw [Bool.eq_iff_iff,beq_iff_eq,beq_iff_eq]
    exact ⟨fun e => e ▸ hk,fun e => h _ hr' _ hm e hk⟩

/-! ## Layers -/

/-- Settings are read if every known value in the flat configuration and in the variables can be
turned into one of its kind. -/
theorem exists_settings_iff {flat : Members} {environment : List (String × String)} :
    (∃ own, Configuration.settings flat environment = .ok own) ↔
      (∀ m ∈ flat, ∀ kind, known.lookup (settingName m.1) = some kind →
        ∃ v, coerce (settingName m.1) kind m.2 = .ok v) ∧
      ∀ s ∈ known, ∀ given, environment.lookup (variableName s.1) = some given →
        ∃ v, coerce s.1 s.2 (.text given) = .ok v := by
  have hf := exists_collect_iff (flat.filterMap configurationEntry)
  have hv := exists_collect_iff (known.filterMap (variableEntry environment))
  rw [← validate_eq_collect] at hf
  rw [← ofVariables_eq_collect] at hv
  have hs : (∃ own, Configuration.settings flat environment = .ok own) ↔
      (∃ own, validate flat = .ok own) ∧ ∃ others, ofVariables environment = .ok others := by
    simp only [Configuration.settings,bind_eq_ok,mapError_eq_ok]
    exact ⟨fun ⟨_,own,ho,others,hs,_⟩ => ⟨⟨own,ho⟩,others,hs⟩,
      fun ⟨⟨own,ho⟩,others,hs⟩ => ⟨_,own,ho,others,hs,rfl⟩⟩
  rw [hs,hf,hv,List.forall_mem_filterMap,List.forall_mem_filterMap]
  simp [configurationEntry,variableEntry]

/-- A setting comes from the flags, else from its variable, else from the configuration, and there
from the spelling that first appears last. It is not set where none of them has it. -/
theorem get?_settings {config flags : Members} {environment : List (String × String)}
    (h : Configuration.settings (flatten config) environment = .ok own)
    (hk : known.lookup k = some kind) :
    (get? (merge own flags) k).map Except.ok =
      ((get? flags.reverse k).map Except.ok).or
        (((environment.lookup (variableName k)).map fun given => coerce k kind (.text given)).or
          (((spelling? (parts config) k).bind (get? (parts config).reverse)).map
            (coerce k kind))) := by
  simp only [Configuration.settings,bind_eq_ok,mapError_eq_ok] at h
  obtain ⟨own',ho,others,hs,hm⟩ := h
  obtain rfl : merge own' others = own := Except.ok.inj hm
  have hn : (keys others).Nodup := nodup_collect (ofVariables_eq_collect environment ▸ hs)
  rw [merge,get?_setAll,merge,get?_setAll,get?_reverse hn,Option.map_or,Option.map_or,
    get?_ofVariables hs hk,get?_validate ho hk,flatten_eq_ofPairs,given?_ofPairs]

/-- A setting is not set exactly where no layer has it, however it is spelled. -/
theorem get?_settings_eq_none_iff {config flags : Members} {environment : List (String × String)}
    (h : Configuration.settings (flatten config) environment = .ok own)
    (hk : known.lookup k = some kind) :
    get? (merge own flags) k = none ↔
      k ∉ keys flags ∧ environment.lookup (variableName k) = none ∧
        ∀ name ∈ keys (parts config), settingName name ≠ k := by
  have hf : get? flags.reverse k = none ↔ k ∉ keys flags := by
    rw [get?_eq_none_iff]
    simp [keys]
  have hp : (spelling? (parts config) k).bind (get? (parts config).reverse) = none ↔
      ∀ name ∈ keys (parts config), settingName name ≠ k := by
    rw [← spelling?_eq_none_iff]
    cases hs : spelling? (parts config) k with
    | none => simp
    | some name =>
      have hm := (of_spelling?_eq_some hs).1
      rw [Option.bind_some,get?_eq_none_iff]
      simpa [keys] using hm
  rw [← Option.map_eq_none_iff,get?_settings h hk,Option.or_eq_none_iff,Option.or_eq_none_iff,
    Option.map_eq_none_iff,Option.map_eq_none_iff,Option.map_eq_none_iff,hf,hp]

/-- Where a setting is spelled in one way, the parts of a configuration are layers of their own. -/
theorem get?_settings_of_oneSpelling {config flags : Members}
    {environment : List (String × String)} (ho : OneSpelling (parts config) k)
    (h : Configuration.settings (flatten config) environment = .ok own)
    (hk : known.lookup k = some kind) :
    (get? (merge own flags) k).map Except.ok =
      ((get? flags.reverse k).map Except.ok).or
        (((environment.lookup (variableName k)).map fun given => coerce k kind (.text given)).or
          (((given? (outside config) k).or
            ((given? (inSection config "parser") k).or
              (given? (inSection config "renderer") k))).map (coerce k kind))) := by
  rw [get?_settings h hk,← given?_ofPairs,given?_ofPairs_of_oneSpelling ho,parts,given?_append,
    given?_append]

-- The limit outside is overruled by one that is spelled with a hyphen, in a section: its own
-- spelling appears before that, in the other section.
example :
    (Configuration.settings
      (flatten [("renderer",.object [("char_limit",.int 1000)]),
        ("parser",.object [("char-limit",.int 2000)]),("char_limit",.int 3000)]) []).toOption =
      some [("char_limit",.int 2000)] := by
  rfl

end ChatMarkup.Settings
