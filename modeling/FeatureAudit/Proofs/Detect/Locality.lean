import FeatureAudit.Proofs.Detect.Settings

/-!
# Detectors that look at one feature at a time

Most detectors carry nothing from one feature to the next: what they find in two corpora put
together is what they find in the first, followed by what they find in the second
(`Detector.findings_local`). Those of anti-patterns do not even look at backgrounds and rules, so
these can be taken out of a corpus without any effect on their findings.

* `Detect.observe_eq_flatMap`: each of these detectors gathers its observations feature by feature,
  from the feature and the criteria alone (`Detect.observedOn`).
* `Detect.antiPatternsIn_behaviorsOnly`: an anti-pattern is observed on a scenario that describes
  behaviour, whatever else the feature holds.
-/

set_option autoImplicit false

namespace FeatureAudit

/-- The feature without its backgrounds and rules. -/
def Feature.behaviorsOnly (f : Feature) : Feature :=
  { f with scenarios := f.scenarios.filter fun s => s.kind != .background && s.kind != .rule }

theorem Feature.behaviors_behaviorsOnly (f : Feature) : f.behaviorsOnly.behaviors = f.behaviors := by
  rw [behaviors, behaviorsOnly, List.filter_filter, behaviors]
  refine List.filter_congr fun s _ => ?_
  cases hkind : s.kind <;> simp [Scenario.isBehavior, hkind]

/-- The place on the feature without its backgrounds and rules. -/
def Place.behaviorsOnly : Place → Place
  | .corpus => .corpus
  | .feature f => .feature f.behaviorsOnly
  | .scenario f s => .scenario f.behaviorsOnly s

/-- A finding names the feature and the scenario of its place, but not what else stands there. -/
theorem Finding.of_behaviorsOnly (type : WarningType) (setting : WarningSetting) (o : Observation) :
    Finding.of type setting { o with place := o.place.behaviorsOnly } =
      Finding.of type setting o := by
  cases h : o.place <;> simp [Finding.of, Place.behaviorsOnly, Place.feature?, Place.scenario?,
    Feature.behaviorsOnly, h]

namespace Detect

/-! ## One feature at a time -/

/-- The types whose detectors look at one feature at a time: five about tags, and all about
anti-patterns. -/
def localTypes : List WarningType :=
  [.missingPriorityTag, .missingTypeTag, .lowValueTag, .duplicateTag, .excessiveTags] ++
    WarningType.ofFamily .antiPattern

/-- What is observed on a feature by itself. -/
def observedOn (c : Criteria) (type : WarningType) (f : Feature) : List Observation :=
  match type with
  | .missingPriorityTag => missingCategory c .priority "priority" f
  | .missingTypeTag => missingCategory c .type "type" f
  | .lowValueTag => lowValue c f
  | .duplicateTag => duplicateTags f
  | .excessiveTags => excessiveTags c f
  | type => antiPatternsIn c type f

/-- Observations are gathered feature by feature, and the concordance plays no part. -/
theorem observe_eq_flatMap {type : WarningType} (h : type ∈ localTypes) (v : Survey) :
    (Detector.standard type).observe v = v.features.flatMap (observedOn v.criteria type) := by
  cases type with
  | orphanedTag | tagTypo | inconsistentTagging | ambiguousTag | tooGenericTag =>
    exact absurd h (by decide)
  | _ => rfl

/-- Backgrounds and rules have no effect on what is observed about anti-patterns. -/
theorem antiPatternsIn_behaviorsOnly (c : Criteria) (type : WarningType) (f : Feature) :
    antiPatternsIn c type f.behaviorsOnly =
      (antiPatternsIn c type f).map fun o => { o with place := o.place.behaviorsOnly } := by
  rw [antiPatternsIn, f.behaviors_behaviorsOnly, antiPatternsIn, List.map_flatMap]
  refine List.flatMap_congr fun s _ => ?_
  rw [List.map_map]
  rfl

end Detect

/-! ## Findings -/

namespace Detector

theorem findings_append {type : WarningType} (h : type ∈ Detect.localTypes)
    (setting : WarningType → WarningSetting) (criteria : Criteria) (xs ys : List Feature)
    (k kx ky : Concordance) :
    (standard type).findings setting ⟨xs ++ ys, criteria, k⟩ =
      (standard type).findings setting ⟨xs, criteria, kx⟩ ++
        (standard type).findings setting ⟨ys, criteria, ky⟩ := by
  by_cases henabled : (setting type).enabled = true
  · rw [findings_of_enabled henabled, findings_of_enabled henabled, findings_of_enabled henabled,
      Detect.observe_eq_flatMap h, Detect.observe_eq_flatMap h, Detect.observe_eq_flatMap h,
      List.flatMap_append, List.map_append]
  · have hoff : (setting type).enabled = false := by simpa using henabled
    rw [findings_of_disabled hoff, findings_of_disabled hoff, findings_of_disabled hoff,
      List.append_nil]

theorem findings_behaviorsOnly {type : WarningType} (h : type.family = .antiPattern)
    (setting : WarningType → WarningSetting) (criteria : Criteria) (features : List Feature)
    (k k' : Concordance) :
    (standard type).findings setting ⟨features.map Feature.behaviorsOnly, criteria, k⟩ =
      (standard type).findings setting ⟨features, criteria, k'⟩ := by
  have hobserve : ∀ v : Survey, (standard type).observe v = Detect.antiPatterns v type := by
    intro v
    rw [observe, h]
  by_cases henabled : (setting type).enabled = true
  · rw [findings_of_enabled henabled, findings_of_enabled henabled, hobserve, hobserve,
      Detect.antiPatterns, Detect.antiPatterns, List.flatMap_map, List.map_flatMap,
      List.map_flatMap]
    refine List.flatMap_congr fun f _ => ?_
    rw [Detect.antiPatternsIn_behaviorsOnly, List.map_map]
    exact List.map_congr_left fun o _ => Finding.of_behaviorsOnly type _ o
  · have hoff : (setting type).enabled = false := by simpa using henabled
    rw [findings_of_disabled hoff, findings_of_disabled hoff]

end Detector

namespace Outcome

theorem findingsOf_behaviorsOnly (c : Config) (features : List Feature) (k k' : Concordance) :
    findingsOf c ⟨features.map Feature.behaviorsOnly, c.toCriteria, k⟩ .antiPattern =
      findingsOf c ⟨features, c.toCriteria, k'⟩ .antiPattern := by
  refine List.flatMap_congr fun d hd => ?_
  obtain ⟨type, htype, rfl⟩ := List.mem_map.1 hd
  have hfamily : type.family = .antiPattern := by simpa using List.of_mem_filter htype
  exact Detector.findings_behaviorsOnly hfamily c.setting c.toCriteria features k k'

theorem analyze_behaviorsOnly (c : Config) (features : List Feature) (given : Option Concordance) :
    analyze c (features.map Feature.behaviorsOnly) given .antiPattern =
      analyze c features given .antiPattern := by
  cases given with
  | none => exact findingsOf_behaviorsOnly c features _ _
  | some k => exact findingsOf_behaviorsOnly c features k k

/-! ## Findings that cannot be written -/

/-- Of all findings about tags, those about too many of them alone quote a threshold. -/
theorem tooLong_iff_of_tagQuality {c : Config} {type : WarningType}
    (h : type.family = .tagQuality) : tooLong c type = true ↔
      type = .excessiveTags ∧ Decimal.digitBound ≤ (c.threshold .maxTags).natAbs := by
  cases type <;> first | exact absurd h (by decide) | simp [tooLong, quoted?]

/-- A finding about tags cannot be written exactly if a scenario has more tags than a threshold that
cannot be written. -/
theorem any_tooLong_tagQuality {c : Config} {features : List Feature} {k : Concordance} :
    ((findingsOf c ⟨features, c.toCriteria, k⟩ .tagQuality).any fun g => tooLong c g.type) = true ↔
      Decimal.digitBound ≤ (c.threshold .maxTags).natAbs ∧
        (c.setting .excessiveTags).enabled = true ∧
        ∃ f ∈ features, ∃ s ∈ f.foreground, c.threshold .maxTags < (f.effectiveTags s).length := by
  rw [List.any_eq_true]
  constructor
  · rintro ⟨g, hg, hlong⟩
    obtain ⟨hfamily, henabled, o, ho, -⟩ := mem_findingsOf_iff.1 hg
    obtain ⟨htype, hbound⟩ := (tooLong_iff_of_tagQuality hfamily).1 hlong
    rw [htype] at henabled ho
    obtain ⟨f, hf, hof⟩ := List.mem_flatMap.1 ho
    obtain ⟨s, hs, hos⟩ := List.mem_flatMap.1 hof
    refine ⟨hbound, henabled, f, hf, s, hs, ?_⟩
    by_contra hfew
    simp [hfew] at hos
  · rintro ⟨hbound, henabled, f, hf, s, hs, hmany⟩
    obtain ⟨o, ho⟩ : ∃ o, o ∈ Detect.excessiveTags c.toCriteria f := by
      simp only [Detect.excessiveTags, List.mem_flatMap]
      exact ⟨_, s, hs, List.mem_of_mem_head? (by rw [if_pos hmany]; rfl)⟩
    refine ⟨Finding.of .excessiveTags (c.setting .excessiveTags) o,
      mem_findingsOf_iff.2 ⟨rfl, henabled, o, List.mem_flatMap.2 ⟨f, hf, ho⟩, rfl⟩, ?_⟩
    exact (tooLong_iff_of_tagQuality rfl).2 ⟨rfl, hbound⟩

theorem quotesTooMuch_iff {c : Config} {o : Outcome} : quotesTooMuch c o = true ↔
    (o.tagQuality.any fun g => tooLong c g.type) = true ∨
      (o.antiPatterns.any fun g => tooLong c g.type) = true := by
  rw [quotesTooMuch, List.any_append, Bool.or_eq_true]

section

variable {c : Config} {features : List Feature} {failures : List Failure} {paths : List SourcePath}

theorem any_tooLong_antiPatterns_behaviorsOnly :
    ((ofFeatures c (features.map Feature.behaviorsOnly) failures paths).antiPatterns.any
        fun g => tooLong c g.type) =
      (ofFeatures c features failures paths).antiPatterns.any fun g => tooLong c g.type :=
  congrArg (fun gs : List Finding => gs.any fun g => tooLong c g.type)
    (analyze_behaviorsOnly c features none)

/-- Without backgrounds and rules there is nothing more that cannot be written. -/
theorem quotesTooMuch_of_behaviorsOnly
    (h : quotesTooMuch c (ofFeatures c (features.map Feature.behaviorsOnly) failures paths) = true) :
    quotesTooMuch c (ofFeatures c features failures paths) = true := by
  rw [quotesTooMuch_iff, any_tooLong_antiPatterns_behaviorsOnly] at h
  refine quotesTooMuch_iff.2 (h.imp_left fun htags => ?_)
  obtain ⟨hbound, henabled, g, hg, s, hs, hmany⟩ := any_tooLong_tagQuality.1 htags
  obtain ⟨f, hf, rfl⟩ := List.mem_map.1 hg
  have hforeground : s ∈ f.foreground := by
    obtain ⟨hkept, hground⟩ := List.mem_filter.1 hs
    exact List.mem_filter.2 ⟨List.mem_of_mem_filter hkept, hground⟩
  exact any_tooLong_tagQuality.2 ⟨hbound, henabled, f, hf, s, hforeground, hmany⟩

/-- Nor is there less, unless it is the most tags of a scenario that cannot be written. -/
theorem quotesTooMuch_behaviorsOnly (h : (c.threshold .maxTags).natAbs < Decimal.digitBound) :
    quotesTooMuch c (ofFeatures c (features.map Feature.behaviorsOnly) failures paths) =
      quotesTooMuch c (ofFeatures c features failures paths) := by
  have htags : ∀ fs : List Feature,
      ¬ ((ofFeatures c fs failures paths).tagQuality.any fun g => tooLong c g.type) = true :=
    fun fs htoo => absurd (any_tooLong_tagQuality.1 htoo).1 (Nat.not_le.2 h)
  rw [Bool.eq_iff_iff, quotesTooMuch_iff, quotesTooMuch_iff, or_iff_right (htags _),
    or_iff_right (htags _), any_tooLong_antiPatterns_behaviorsOnly]

theorem isSome_ofFeatures? : (ofFeatures? c features failures paths).isSome =
    !quotesTooMuch c (ofFeatures c features failures paths) := by
  rw [ofFeatures?]
  cases quotesTooMuch c (ofFeatures c features failures paths) <;> rfl

end

end Outcome

namespace Detector

/-- **Most detectors look at one feature at a time.** Whatever the configuration and the
concordances, the findings of such a detector in two corpora put together are those in the first
followed by those in the second. Without their backgrounds and rules the features of a corpus give
the same findings about anti-patterns. An audit of them gives a result if that of the whole corpus
does, and no more often, unless the most tags of a scenario, which a rule too may exceed, are a
number that cannot be written. -/
theorem findings_local (c : Config) :
    (∀ type ∈ Detect.localTypes, ∀ (xs ys : List Feature) (k kx ky : Concordance),
      (standard type).findings c.setting ⟨xs ++ ys, c.toCriteria, k⟩ =
        (standard type).findings c.setting ⟨xs, c.toCriteria, kx⟩ ++
          (standard type).findings c.setting ⟨ys, c.toCriteria, ky⟩) ∧
    ∀ features : List Feature,
      (∀ given : Option Concordance,
        Outcome.analyze c (features.map Feature.behaviorsOnly) given .antiPattern =
          Outcome.analyze c features given .antiPattern) ∧
      ∀ (failures : List Failure) (paths : List SourcePath),
        let whole := Outcome.ofFeatures? c features failures paths
        let only := Outcome.ofFeatures? c (features.map Feature.behaviorsOnly) failures paths
        (whole.isSome = true → only.isSome = true) ∧
          ((c.threshold .maxTags).natAbs < Decimal.digitBound → only.isSome = whole.isSome) := by
  refine ⟨?_, ?_⟩
  · intro type htype xs ys k kx ky
    exact findings_append htype c.setting c.toCriteria xs ys k kx ky
  · intro features
    refine ⟨Outcome.analyze_behaviorsOnly c features, fun failures paths => ?_⟩
    simp only [Outcome.isSome_ofFeatures?, Bool.not_eq_true']
    refine ⟨fun hwhole => ?_, fun hbound => by rw [Outcome.quotesTooMuch_behaviorsOnly hbound]⟩
    rw [← Bool.not_eq_true] at hwhole ⊢
    exact fun hmore => hwhole (Outcome.quotesTooMuch_of_behaviorsOnly hmore)

/-- A feature whose background has no action either. -/
def ledger : Feature :=
  ⟨"ledger.feature", "Ledger", "", [.named "@Smoke"],
    [⟨"books", .background, 2, "", [], ["Given a book"], []⟩,
      ⟨"entry", .scenario, 4, "", [.named "@smoke"], ["Given a sum", "Then it is kept"], []⟩], []⟩

/-- A feature with a rule over its scenario. -/
def receipt : Feature :=
  ⟨"receipt.feature", "Receipt", "", [],
    [⟨"numbers", .rule, 2, "", [], [], []⟩,
      ⟨"print", .scenario, 3, "", [], ["Given a sum", "Then it is shown"], []⟩], []⟩

theorem findings_local_ledger :
    let missing := fun features => (standard .missingWhen).findings Config.standard.setting
      (Survey.ofFeatures Config.standard.toCriteria features)
    WarningType.missingWhen ∈ Detect.localTypes ∧
      (missing [ledger]).map Finding.scenario = [some "entry"] ∧
      (missing [receipt]).map Finding.scenario = [some "print"] ∧
      missing [ledger, receipt] = missing [ledger] ++ missing [receipt] ∧
      [ledger, receipt].map (fun f => f.behaviorsOnly.scenarios.length) = [1, 1] ∧
      Outcome.analyze .standard ([ledger, receipt].map Feature.behaviorsOnly) none .antiPattern =
        Outcome.analyze .standard [ledger, receipt] none .antiPattern ∧
      (Config.standard.threshold .maxTags).natAbs < Decimal.digitBound ∧
      (Outcome.ofFeatures? .standard ([ledger, receipt].map Feature.behaviorsOnly) [] []).isSome =
        (Outcome.ofFeatures? .standard [ledger, receipt] [] []).isSome := by
  have htype : WarningType.missingWhen ∈ Detect.localTypes := by decide
  have hbound := Outcome.natAbs_threshold_standard_lt .maxTags
  exact ⟨htype, by decide +kernel, by decide +kernel,
    (findings_local .standard).1 _ htype [ledger] [receipt] _ _ _, by decide +kernel,
    ((findings_local .standard).2 [ledger, receipt]).1 none, hbound,
    (((findings_local .standard).2 [ledger, receipt]).2 [] []).2 hbound⟩

end Detector

end FeatureAudit
