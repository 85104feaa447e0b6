import Mathlib.Data.List.Basic
import FeatureAudit.Outcome
import FeatureAudit.Pattern.Engine

/-!
# Settings stay with their type

How findings of one type are reported has no effect on the findings of another type
(`analyze_agreeExcept`).

* `Detector.filter_runAll`: the findings of some types are those of the detectors of these types.
* `Detector.findings_congr`: of all settings, a detector depends on that of its own type.
* `Detector.map_unrated_findings`: of that setting, severity and alternatives have no effect on what
  is found.
* `Config.setting_withDisabled`: switching types off leaves everything else as it is.
-/

set_option autoImplicit false

namespace FeatureAudit

/-! ## Configurations that differ in one setting -/

namespace Config

/-- Configurations that differ at most in how findings of one type are reported. -/
structure AgreeExcept (t : WarningType) (c d : Config) : Prop where
  criteria : c.toCriteria = d.toCriteria
  setting : ∀ u, u ≠ t → c.setting u = d.setting u

theorem foldl_switchOff (setting : WarningType → WarningSetting) (types : List WarningType)
    (u : WarningType) :
    types.foldl switchOff setting u =
      if u ∈ types then { setting u with enabled := false } else setting u := by
  induction types generalizing setting with
  | nil => rfl
  | cons t types ih =>
    rw [List.foldl_cons, ih, switchOff, modify]
    by_cases hu : u = t
    · simp [hu]
    · simp [hu]

/-- The settings after types are switched off. -/
theorem setting_withDisabled (c : Config) (types : List WarningType) (u : WarningType) :
    (c.withDisabled types).setting u =
      if u ∈ types then { c.setting u with enabled := false } else c.setting u :=
  foldl_switchOff c.setting types u

@[simp] theorem toCriteria_withDisabled (c : Config) (types : List WarningType) :
    (c.withDisabled types).toCriteria = c.toCriteria := rfl

end Config

/-! ## One detector -/

/-- A finding without what its setting says about it. -/
def Finding.unrated (f : Finding) : Finding := { f with severity := .warning, alternatives := [] }

theorem Finding.unrated_of (t : WarningType) (s s' : WarningSetting) (o : Observation) :
    (Finding.of t s o).unrated = (Finding.of t s' o).unrated := rfl

namespace Detector

variable {setting setting' : WarningType → WarningSetting} {v : Survey} {d : Detector}
  {ds : List Detector}

theorem findings_of_disabled (h : (setting d.type).enabled = false) :
    d.findings setting v = [] := by
  simp [findings_eq, h]

theorem findings_of_enabled (h : (setting d.type).enabled = true) :
    d.findings setting v = (d.observe v).map (Finding.of d.type (setting d.type)) := by
  simp [findings_eq, h]

/-- A detector reports findings of its type alone. -/
theorem type_of_mem_findings {f : Finding} (h : f ∈ d.findings setting v) : f.type = d.type := by
  rw [findings_eq] at h
  split at h
  · obtain ⟨o, -, rfl⟩ := List.mem_map.1 h
    rfl
  · simp at h

/-- A detector depends on no setting but that of its type. -/
theorem findings_congr (h : setting d.type = setting' d.type) :
    d.findings setting v = d.findings setting' v := by
  rw [findings_eq, findings_eq, h]

/-- As long as a type is reported, its setting has no effect on what is found. -/
theorem map_unrated_findings (h : (setting d.type).enabled = true)
    (h' : (setting' d.type).enabled = true) :
    (d.findings setting v).map Finding.unrated = (d.findings setting' v).map Finding.unrated := by
  rw [findings_of_enabled h, findings_of_enabled h', List.map_map, List.map_map]
  exact List.map_congr_left fun o _ => Finding.unrated_of d.type _ _ o

theorem filter_findings (p : WarningType → Bool) :
    (d.findings setting v).filter (fun f => p f.type) =
      if p d.type then d.findings setting v else [] := by
  have htype : ∀ f ∈ d.findings setting v, p f.type = p d.type := fun f hf =>
    congrArg p (type_of_mem_findings hf)
  split
  · exact List.filter_eq_self.2 fun f hf => by rw [htype f hf]; assumption
  · exact List.filter_eq_nil_iff.2 fun f hf => by rw [htype f hf]; assumption

/-! ## All detectors -/

/-- The findings of some types are those of the detectors of these types. -/
theorem filter_runAll (p : WarningType → Bool) :
    (runAll setting v ds).filter (fun f => p f.type) =
      runAll setting v (ds.filter fun d => p d.type) := by
  rw [runAll_eq, runAll_eq]
  induction ds with
  | nil => rfl
  | cons d ds ih =>
    rw [List.flatMap_cons, List.filter_append, ih, filter_findings, List.filter_cons]
    by_cases hd : p d.type = true
    · rw [if_pos hd, if_pos hd, List.flatMap_cons]
    · rw [if_neg hd, if_neg hd, List.nil_append]

theorem runAll_congr (h : ∀ d ∈ ds, setting d.type = setting' d.type) :
    runAll setting v ds = runAll setting' v ds :=
  List.flatMap_congr fun d hd => findings_congr (h d hd)

/-- What is found is of a type that is reported. -/
theorem enabled_of_mem_runAll {f : Finding} (h : f ∈ runAll setting v ds) :
    (setting f.type).enabled = true := by
  rw [runAll_eq] at h
  obtain ⟨d, -, hfd⟩ := List.mem_flatMap.1 h
  rw [type_of_mem_findings hfd]
  by_contra hoff
  rw [findings_of_disabled (by simpa using hoff)] at hfd
  simp at hfd

/-- Detectors of types that are switched off may as well be left out. -/
theorem runAll_of_disabled {p : WarningType → Bool}
    (h : ∀ u, p u = false → (setting u).enabled = false) :
    runAll setting v ds = runAll setting v (ds.filter fun d => p d.type) := by
  have hall : ∀ f ∈ runAll setting v ds, p f.type = true := by
    intro f hf
    cases hp : p f.type with
    | true => rfl
    | false => exact absurd (enabled_of_mem_runAll hf) (by simp [h f.type hp])
  rw [← filter_runAll, List.filter_eq_self.2 hall]

theorem map_unrated_runAll
    (h : ∀ d ∈ ds, (setting d.type).enabled = true ∧ (setting' d.type).enabled = true) :
    (runAll setting v ds).map Finding.unrated = (runAll setting' v ds).map Finding.unrated := by
  rw [runAll_eq, runAll_eq, List.map_flatMap, List.map_flatMap]
  exact List.flatMap_congr fun d hd => map_unrated_findings (h d hd).1 (h d hd).2

end Detector


/-- The findings of a family are what its detectors observe, as far as their types are reported. -/
theorem Outcome.mem_findingsOf_iff {c : Config} {v : Survey} {family : Family} {g : Finding} :
    g ∈ findingsOf c v family ↔ g.type.family = family ∧ (c.setting g.type).enabled = true ∧
      ∃ o ∈ (Detector.standard g.type).observe v, g = Finding.of g.type (c.setting g.type) o := by
  have hdetectors : Registry.standard.detectors family = Detector.ofFamily family := by
    cases family <;> rfl
  rw [findingsOf, hdetectors, Detector.runAll_eq, List.mem_flatMap]
  constructor
  · rintro ⟨d, hd, hg⟩
    obtain ⟨type, htype, rfl⟩ := List.mem_map.1 hd
    have hfamily : type.family = family := by simpa using List.of_mem_filter htype
    rw [Detector.findings_eq] at hg
    split at hg
    · rename_i henabled
      obtain ⟨o, ho, rfl⟩ := List.mem_map.1 hg
      exact ⟨hfamily, henabled, o, ho, rfl⟩
    · simp at hg
  · rintro ⟨rfl, henabled, o, ho, hgo⟩
    refine ⟨.standard g.type, List.mem_map_of_mem ?_, ?_⟩
    · exact List.mem_filter.2 ⟨by cases g.type <;> decide, by simp⟩
    · rw [Detector.findings_eq, Detector.type, if_pos henabled]
      exact List.mem_map.2 ⟨o, ho, hgo.symm⟩

/-! ## Analyses -/

/-- The survey of a corpus with a concordance that is given, or else its own. -/
def Survey.build (criteria : Criteria) (features : List Feature) (given : Option Concordance) :
    Survey :=
  (given.map fun concordance => ⟨features, criteria, concordance⟩).getD
    (ofFeatures criteria features)

namespace Outcome

/-- The findings of a family in a corpus, with a concordance that is given or else its own. -/
def analyze (c : Config) (features : List Feature) (given : Option Concordance)
    (family : Family) : List Finding :=
  findingsOf c (Survey.build c.toCriteria features given) family

variable {c d : Config} {t : WarningType}

theorem analyze_withDisabled (c : Config) (features : List Feature) (given : Option Concordance)
    (family : Family) (types : List WarningType) :
    analyze (c.withDisabled types) features given family =
      (analyze c features given family).filter fun f => decide (f.type ∉ types) := by
  unfold analyze findingsOf
  rw [Detector.filter_runAll fun u => decide (u ∉ types), Config.toCriteria_withDisabled,
    Detector.runAll_of_disabled (p := fun u => decide (u ∉ types))]
  · refine Detector.runAll_congr fun d hd => ?_
    have hkept : d.type ∉ types := by simpa using List.of_mem_filter hd
    rw [Config.setting_withDisabled, if_neg hkept]
  · intro u hu
    have hdropped : u ∈ types := by simpa using hu
    rw [Config.setting_withDisabled, if_pos hdropped]

/-- Configurations that differ only in the setting of one type give the same findings of all other
types. Of that type they give none where it is switched off, and findings that agree except for
severity and alternatives where it is not. To switch types off is to drop their findings. -/
theorem analyze_agreeExcept (h : c.AgreeExcept t d) (features : List Feature)
    (given : Option Concordance) (family : Family) :
    (analyze c features given family).filter (fun f => decide (f.type ≠ t)) =
        (analyze d features given family).filter (fun f => decide (f.type ≠ t)) ∧
      ((c.setting t).enabled = false → ∀ f ∈ analyze c features given family, f.type ≠ t) ∧
      ((c.setting t).enabled = true → (d.setting t).enabled = true →
        ((analyze c features given family).filter fun f => decide (f.type = t)).map
            Finding.unrated =
          ((analyze d features given family).filter fun f => decide (f.type = t)).map
            Finding.unrated) ∧
      ∀ types, analyze (c.withDisabled types) features given family =
        (analyze c features given family).filter fun f => decide (f.type ∉ types) := by
  refine ⟨?_, ?_, ?_, analyze_withDisabled c features given family⟩
  · unfold analyze findingsOf
    rw [Detector.filter_runAll fun u => decide (u ≠ t), Detector.filter_runAll fun u =>
      decide (u ≠ t), h.criteria]
    exact Detector.runAll_congr fun d hd => h.setting d.type (by simpa using List.of_mem_filter hd)
  · intro hoff f hf htype
    have hon := Detector.enabled_of_mem_runAll hf
    rw [htype, hoff] at hon
    contradiction
  · intro hc hd
    unfold analyze findingsOf
    rw [Detector.filter_runAll fun u => decide (u = t), Detector.filter_runAll fun u =>
      decide (u = t), h.criteria]
    refine Detector.map_unrated_runAll fun d' hd' => ?_
    have htype : d'.type = t := by simpa using List.of_mem_filter hd'
    rw [htype]
    exact ⟨hc, hd⟩

/-- An outline that has one step and no examples. -/
def refund : Feature :=
  ⟨"refund.feature", "Refund", "", [], [⟨"late", .outline, 2, "", [], ["Given a parcel"], []⟩], []⟩

/-- The standard configuration, with a missing outcome as a mere remark. -/
def milder : Config :=
  { Config.standard with
    setting := Config.update Config.standardSetting .missingThen ⟨true, .info, ["Then"]⟩ }

theorem analyze_agreeExcept_refund :
    Config.standard.AgreeExcept .missingThen milder ∧
      (analyze .standard [refund] none .antiPattern).map Finding.type =
        [.tooFewSteps, .missingWhen, .missingThen, .missingExamples] ∧
      (analyze .standard [refund] none .antiPattern).filter
          (fun f => decide (f.type ≠ .missingThen)) =
        (analyze milder [refund] none .antiPattern).filter
          (fun f => decide (f.type ≠ .missingThen)) ∧
      ((analyze .standard [refund] none .antiPattern).filter
          fun f => decide (f.type = .missingThen)).map Finding.unrated =
        ((analyze milder [refund] none .antiPattern).filter
          fun f => decide (f.type = .missingThen)).map Finding.unrated ∧
      analyze (Config.standard.withDisabled [.missingThen, .tooFewSteps]) [refund] none
          .antiPattern =
        (analyze .standard [refund] none .antiPattern).filter
          fun f => decide (f.type ∉ [WarningType.missingThen, .tooFewSteps]) := by
  have hagree : Config.standard.AgreeExcept .missingThen milder :=
    ⟨rfl, fun u hu => (if_neg hu).symm⟩
  obtain ⟨hothers, -, hsame, hdisabled⟩ := analyze_agreeExcept hagree [refund] none .antiPattern
  exact ⟨hagree, by decide +kernel, hothers, hsame rfl rfl, hdisabled _⟩

end Outcome

end FeatureAudit
