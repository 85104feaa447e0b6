import FeatureAudit.Config.Coercion
import FeatureAudit.Proofs.Config.Document
import FeatureAudit.Proofs.Detect.Settings
import FeatureAudit.Proofs.Text.Blank

/-!
# Resolution of a document

The setting of a type is its standard setting, changed field by field by the overrides that name the
type, in order, and switched off at last if the type is named as disabled. A threshold is what the
document says, unless that is nothing or below zero (`resolution_local`).

* `foldl_applyOverride`: of all overrides, those that name a type have an effect on its setting.
* `foldl_apply`: of the values that overrides give to a field, the last one is taken.
* `exists_mem_namesInAll`: which types are named by texts that are divided at commas.
* `ofValue_of_read?`: a value that can be read as a document gives the configuration of it.
-/

set_option autoImplicit false

namespace FeatureAudit.Config

/-! ## Names of types -/

/-- Whether a text names a type: trimmed and in upper case it is the name of the type. -/
def Names (text : String) (t : WarningType) : Prop := Text.upper (Text.trim text) = t.name

instance (text : String) (t : WarningType) : Decidable (Names text t) :=
  inferInstanceAs (Decidable (_ = _))

/-- Whether texts name a type, when each of them is divided at its commas. -/
def NamedIn (texts : List String) (t : WarningType) : Prop :=
  ∃ text ∈ texts, ∃ part ∈ text.toList.splitOn ',', Names (String.ofList part) t

instance (texts : List String) (t : WarningType) : Decidable (NamedIn texts t) :=
  inferInstanceAs (Decidable (∃ text ∈ texts, ∃ part ∈ text.toList.splitOn ',', _))

theorem ofName?_eq_some_iff {name : String} {t : WarningType} :
    WarningType.ofName? name = some t ↔ name = t.name := by
  constructor
  · intro h
    unfold WarningType.ofName? at h
    have hname := List.find?_some h
    exact (eq_of_beq hname).symm
  · rintro rfl
    cases t <;> rfl

theorem lookup?_eq_some_iff {text : String} {t : WarningType} :
    WarningType.lookup? text = some t ↔ Names text t := by
  rw [WarningType.lookup?, ofName?_eq_some_iff, Names]

/-- White space around a name makes no difference. -/
theorem names_trimChars (cs : List Char) (t : WarningType) :
    Names (String.ofList (Text.trimChars cs)) t ↔ Names (String.ofList cs) t := by
  have htrim : Text.trimChars (Text.trimChars cs) = Text.trimChars cs := Text.trimmed_trimChars cs
  rw [Names, Names, Text.trim, Text.trim, String.toList_ofList, String.toList_ofList, htrim]

/-- Nothing but white space names no type. -/
theorem trimChars_ne_nil_of_names {cs : List Char} {t : WarningType}
    (h : Names (String.ofList cs) t) : Text.trimChars cs ≠ [] := by
  intro hnil
  rw [Names, Text.trim, String.toList_ofList, hnil] at h
  cases t <;> exact absurd h (by decide)

/-- The names in texts name the types that the parts between their commas name. -/
theorem exists_mem_namesInAll {texts : List String} {t : WarningType} :
    (∃ name ∈ namesInAll texts, Names name t) ↔ NamedIn texts t := by
  constructor
  · rintro ⟨name, hname, ht⟩
    obtain ⟨text, htext, hin⟩ := List.mem_flatMap.1 hname
    obtain ⟨cs, hcs, rfl⟩ := List.mem_map.1 hin
    obtain ⟨part, hpart, rfl⟩ := List.mem_map.1 (List.mem_of_mem_filter hcs)
    exact ⟨text, htext, part, hpart, (names_trimChars part t).1 ht⟩
  · rintro ⟨text, htext, part, hpart, ht⟩
    refine ⟨String.ofList (Text.trimChars part), List.mem_flatMap.2 ⟨text, htext, ?_⟩,
      (names_trimChars part t).2 ht⟩
    refine List.mem_map_of_mem (List.mem_filter.2 ⟨List.mem_map_of_mem hpart, ?_⟩)
    simpa using trimChars_ne_nil_of_names ht

/-! ## Overrides -/

/-- The overrides that name a type, in order. -/
def overridesFor (entries : List (String × Override)) (t : WarningType) : List Override :=
  (entries.filter fun e => Names e.1 t).map Prod.snd

/-- Of all overrides, those that name a type have an effect on its setting. -/
theorem foldl_applyOverride (setting : WarningType → WarningSetting)
    (entries : List (String × Override)) (t : WarningType) :
    entries.foldl applyOverride setting t =
      (overridesFor entries t).foldl (fun s o => o.apply s) (setting t) := by
  induction entries generalizing setting with
  | nil => rfl
  | cons e entries ih =>
    have hhead : applyOverride setting e t =
        if Names e.1 t then e.2.apply (setting t) else setting t := by
      cases hu : WarningType.lookup? e.1 with
      | none => simp [applyOverride, hu, ← lookup?_eq_some_iff]
      | some u => simp [applyOverride, modify, hu, ← lookup?_eq_some_iff, eq_comm]
    rw [List.foldl_cons, ih, hhead, overridesFor, overridesFor, List.filter_cons]
    by_cases hnames : Names e.1 t
    · simp [hnames]
    · simp [hnames]

/-- Of all names, those that name a type switch it off. -/
theorem foldl_disable (setting : WarningType → WarningSetting) (names : List String)
    (t : WarningType) :
    names.foldl disable setting t =
      if ∃ name ∈ names, Names name t then { setting t with enabled := false } else setting t := by
  -- a name that names no type is skipped, and so it is when the types are read first
  have hfold : names.foldl disable setting =
      (names.filterMap WarningType.lookup?).foldl switchOff setting := by
    rw [List.foldl_filterMap]
    refine congrArg (fun step => names.foldl step setting) (funext fun s => funext fun name => ?_)
    rw [disable]
    cases WarningType.lookup? name with
    | none => rfl
    | some u => rfl
  rw [hfold, foldl_switchOff]
  simp only [List.mem_filterMap, lookup?_eq_some_iff]

namespace Override

/-- Whether an override says that findings are reported. -/
def enabled? : Override → Option Bool
  | .toggle enabled => some enabled
  | .fields enabled _ _ => enabled

/-- The severity that an override gives. Text that names none gives a warning. -/
def severity? : Override → Option Severity
  | .toggle _ => none
  | .fields _ severity _ => severity.map fun text => (Severity.read? text).getD .warning

/-- What an override suggests instead. -/
def alternatives? : Override → Option (List String)
  | .toggle _ => none
  | .fields _ _ alternatives => alternatives.map namesInAll

/-- An override changes the fields that it gives a value and no others. -/
theorem apply_eq (o : Override) (s : WarningSetting) :
    o.apply s = ⟨o.enabled?.getD s.enabled, o.severity?.getD s.severity,
      o.alternatives?.getD s.alternatives⟩ := by
  cases o with
  | toggle enabled => rfl
  | fields enabled severity alternatives =>
    cases severity <;> cases alternatives <;> simp [apply, enabled?, severity?, alternatives?]

/-- The last value that overrides give to a field, or else a default. -/
def lastGiven {α : Type} (field : Override → Option α) (os : List Override) (default : α) : α :=
  (os.filterMap field).getLast?.getD default

theorem lastGiven_cons {α : Type} (field : Override → Option α) (o : Override)
    (os : List Override) (default : α) :
    lastGiven field (o :: os) default = lastGiven field os ((field o).getD default) := by
  rw [lastGiven, lastGiven, List.filterMap_cons]
  cases field o with
  | none => rfl
  | some a => rw [List.getLast?_cons]; rfl

/-- After overrides every field has the last value that one of them gives. -/
theorem foldl_apply (os : List Override) (s : WarningSetting) :
    os.foldl (fun s o => o.apply s) s = ⟨lastGiven enabled? os s.enabled,
      lastGiven severity? os s.severity, lastGiven alternatives? os s.alternatives⟩ := by
  induction os generalizing s with
  | nil => rfl
  | cons o os ih => rw [List.foldl_cons, ih, apply_eq, lastGiven_cons, lastGiven_cons, lastGiven_cons]

end Override

/-! ## Documents -/

/-- The setting of a type: its overrides in order, and at last whether it is disabled. -/
theorem resolveSettings_eq (d : Document) (t : WarningType) :
    resolveSettings d t =
      let s := (overridesFor (d.tagQuality ++ d.antiPatterns) t).foldl (fun s o => o.apply s)
        (standardSetting t)
      if NamedIn d.disabled t then { s with enabled := false } else s := by
  rw [resolveSettings, foldl_disable, foldl_applyOverride]
  simp only [exists_mem_namesInAll]

theorem resolveThreshold_eq (d : Document) (t : Threshold) :
    resolveThreshold d t = ((d.limit t).filter fun n => decide (0 ≤ n)).getD t.standard := by
  rw [resolveThreshold]
  cases d.limit t with
  | none => rfl
  | some n =>
    by_cases hn : n < 0
    · simp [hn, Option.filter, Int.not_le.2 hn]
    · simp [hn, Option.filter, Int.not_lt.1 hn]

/-- The only document that counts as absent is the empty one. -/
theorem eq_nil_of_not_isTruthy [FieldReader] {v : Value} {d : Document}
    (h : Document.read? v = some d) (hfalsy : v.isTruthy = false) : v = .table [] := by
  cases v with
  | table es =>
    have hes : es.isEmpty = true := by simpa [Value.isTruthy] using hfalsy
    rw [List.isEmpty_iff.1 hes]
  | _ => cases h

/-- A value that can be read as a document gives the settings and thresholds of the document, unless
one of its patterns ends all work. -/
theorem ofValue_of_read? [FieldReader] [PatternEngine] {v : Value} {d : Document}
    (h : Document.read? v = some d) (hgood : abort? d = none) :
    ∃ c notices, ofValue v = .ok (c, notices) ∧
      c.setting = resolveSettings d ∧ c.threshold = resolveThreshold d := by
  cases htruthy : v.isTruthy with
  | true => exact ⟨ofDocument d, documentNotices d, by simp [ofValue, htruthy, h, hgood], rfl, rfl⟩
  | false =>
    -- the standard configuration is returned unread, so the empty document has to give the same
    obtain rfl := eq_nil_of_not_isTruthy h htruthy
    have hfrom := Document.readFrom_of_read? h
    have htagQuality : [] = d.tagQuality := Option.some_inj.1 hfrom.tagQuality
    have hantiPatterns : [] = d.antiPatterns := Option.some_inj.1 hfrom.antiPatterns
    have hdisabled : [] = d.disabled := Option.some_inj.1 hfrom.disabled
    have hlimit : ∀ t, none = d.limit t := fun t => Option.some_inj.1 (hfrom.limit t)
    refine ⟨standard, [], rfl, ?_, funext fun t => ?_⟩
    · rw [resolveSettings, ← htagQuality, ← hantiPatterns, ← hdisabled]
      rfl
    · rw [resolveThreshold, ← hlimit t]
      rfl

theorem ofValue_of_abort? [FieldReader] [PatternEngine] {v : Value} {d : Document}
    (h : Document.read? v = some d) {cause : Abort} (hbad : abort? d = some cause) :
    ofValue v = .error cause := by
  have htruthy : v.isTruthy = true := by
    by_contra hfalsy
    obtain rfl := eq_nil_of_not_isTruthy h (by simpa using hfalsy)
    have hfrom := Document.readFrom_of_read? h
    have hui : [] = d.uiPatterns := Option.some_inj.1 hfrom.uiPatterns
    have himplementation : [] = d.implementationPatterns :=
      Option.some_inj.1 hfrom.implementationPatterns
    rw [abort?, ← hui, ← himplementation] at hbad
    cases hbad
  simp [ofValue, htruthy, h, hbad]

/-- **Resolution is local and in order.** Every field of a document comes from its own place. The
setting of a type is the standard one, changed by the overrides that name the type, those of the
section on tags first; of each field the last value is taken. A type that is named as disabled is off
whatever the overrides say. A threshold has the value of the document unless there is none or it is
below zero. The configuration has these settings and thresholds, unless a pattern ends all work. -/
theorem resolution_local [FieldReader] [PatternEngine] {v : Value} {d : Document}
    (h : Document.read? v = some d) :
    d.ReadFrom v ∧
      (∀ t,
        let os := overridesFor (d.tagQuality ++ d.antiPatterns) t
        let s := os.foldl (fun s o => o.apply s) (standardSetting t)
        resolveSettings d t = (if NamedIn d.disabled t then { s with enabled := false } else s) ∧
          s = ⟨Override.lastGiven Override.enabled? os true,
            Override.lastGiven Override.severity? os t.defaultSeverity,
            Override.lastGiven Override.alternatives? os (standardAlternatives t)⟩ ∧
          (NamedIn d.disabled t → (resolveSettings d t).enabled = false)) ∧
      (∀ t, resolveThreshold d t =
        ((d.limit t).filter fun n => decide (0 ≤ n)).getD t.standard) ∧
      match abort? d with
      | some cause => ofValue v = .error cause
      | none => ∃ c notices, ofValue v = .ok (c, notices) ∧ c.setting = resolveSettings d ∧
          c.threshold = resolveThreshold d := by
  refine ⟨Document.readFrom_of_read? h, ?_, resolveThreshold_eq d, ?_⟩
  · intro t os s
    have hsetting : resolveSettings d t =
        if NamedIn d.disabled t then { s with enabled := false } else s := resolveSettings_eq d t
    refine ⟨hsetting, Override.foldl_apply os (standardSetting t), fun hnamed => ?_⟩
    rw [hsetting, if_pos hnamed]
  · cases hbad : abort? d with
    | none => exact ofValue_of_read? h hbad
    | some cause => exact ofValue_of_abort? h hbad

/-- A value that names two types several times, in both sections and in several spellings. -/
def ledger : Value :=
  .table
    [("warnings", .table
      [("disabled", .list [.text "LONG_SCENARIO, missing_then "]),
        ("tag_quality", .table
          [(" Missing_Then", .table [("enabled", .flag true), ("severity", .text "hint")]),
            ("tag_typo", .flag false), ("no_such_type", .flag false)]),
        ("anti_patterns", .table
          [("TAG_TYPO", .text "on"),
            ("missing_then", .table [("alternatives", .list [.text "a, b"])])])]),
      ("thresholds", .table [("max_steps", .integer 4), ("min_steps", .integer (-1))])]

/-- The document that is read from it. -/
def ledgerDocument : Document where
  disabled := ["LONG_SCENARIO, missing_then "]
  tagQuality := [(" Missing_Then", .fields (some true) (some "hint") none),
    ("tag_typo", .toggle false), ("no_such_type", .toggle false)]
  antiPatterns := [("TAG_TYPO", .toggle true), ("missing_then", .fields none none (some ["a, b"]))]
  priority := []
  type := []
  status := []
  lowValue := []
  limit := limitsIn [(.maxSteps, some 4), (.minSteps, some (-1)), (.minExamples, none),
    (.maxTags, none), (.maxScenarioNameLength, none), (.maxStepLength, none)]
  uiPatterns := []
  implementationPatterns := []
  pronouns := []
  conjunctions := []

theorem resolution_local_ledger : Document.read? ledger = some ledgerDocument ∧
    resolveSettings ledgerDocument .missingThen = ⟨false, .hint, ["a", "b"]⟩ ∧
    resolveSettings ledgerDocument .tagTypo = ⟨true, .warning, []⟩ ∧
    resolveThreshold ledgerDocument .maxSteps = 4 ∧
    resolveThreshold ledgerDocument .minSteps = 2 := by
  have hread : Document.read? ledger = some ledgerDocument := rfl
  obtain ⟨-, hsettings, hthresholds, -⟩ := resolution_local hread
  refine ⟨hread, (hsettings .missingThen).1.trans ?_, (hsettings .tagTypo).1.trans ?_,
    (hthresholds .maxSteps).trans ?_, (hthresholds .minSteps).trans ?_⟩
  all_goals decide +kernel

end FeatureAudit.Config
