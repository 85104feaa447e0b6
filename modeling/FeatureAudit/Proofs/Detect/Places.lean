import FeatureAudit.Proofs.Analysis.Similar
import FeatureAudit.Proofs.Detect.Settings

/-!
# Findings point at places of the corpus

Every finding that is not about the corpus as a whole lies on a feature of the corpus or on one of
its scenarios, and a finding that flags a tag lies where the tag is first mentioned, in the spelling
that it quotes (`Outcome.warnings_located`).

* `Place.exists_firstMention`: the first mention of a tag, which gives the concordance its spelling,
  stands in the first tag list that mentions the tag at all.
* `Survey.firstPlace_of_firstMention`: the search for a place finds that tag list.
* `Detect.flagged_of_mem_tagQuality`: so the detectors that flag tags of the concordance point at it.
* `Detect.standing_of_mem_tagQuality`, `Detect.standing_of_mem_antiPatterns`: all other detectors
  point at the feature they look at or at a scenario of it that is no background.
* `Outcome.mem_warnings_iff`: findings are observations of the types that are reported.
-/

set_option autoImplicit false

namespace FeatureAudit

/-! ## Places with tags -/

namespace Place

/-- The tags that stand at a place. -/
def tags : Place → List Tag
  | .corpus => []
  | .feature f => f.tags
  | .scenario _ s => s.tags

/-- The places of a feature, its own in front of those of its scenarios. -/
def within (f : Feature) : List Place := .feature f :: f.scenarios.map (.scenario f)

/-- The places of a corpus in order. -/
def all (features : List Feature) : List Place := features.flatMap within

/-- Whether a place is the first one of a corpus that mentions a tag, and spells it so. -/
def FirstMention (features : List Feature) (t : Tag) (p : Place) : Prop :=
  ∃ before after, all features = before ++ p :: after ∧
    (∀ q ∈ before, t.mentioned q.tags = false) ∧ t ∈ p.tags

theorem FirstMention.mem_all {features : List Feature} {t : Tag} {p : Place}
    (h : FirstMention features t p) : p ∈ all features := by
  obtain ⟨before, after, hall, -⟩ := h
  simp [hall]

theorem exists_of_mem_all {features : List Feature} {p : Place} (h : p ∈ all features) :
    ∃ f ∈ features, p.feature? = some f ∧ ∀ s ∈ p.scenario?, s ∈ f.scenarios := by
  obtain ⟨f, hf, hp⟩ := List.mem_flatMap.1 h
  rcases List.mem_cons.1 hp with rfl | hp
  · exact ⟨f, hf, rfl, fun s hs => nomatch hs⟩
  · obtain ⟨s, hs, rfl⟩ := List.mem_map.1 hp
    refine ⟨f, hf, rfl, fun s' hs' => ?_⟩
    rwa [← Option.some_inj.1 hs']

theorem map_tags_within (f : Feature) : (within f).map tags = f.tagLists := by
  rw [within, List.map_cons, List.map_map]
  rfl

/-- The mentions of a corpus, place by place. -/
theorem mentions_eq (features : List Feature) :
    Concordance.mentions features = (all features).flatMap fun p => Tag.distinct p.tags := by
  simp only [Concordance.mentions, all, List.flatMap_assoc, ← map_tags_within, List.flatMap_map]

/-- A first mention stands in the first tag list that mentions its tag. -/
theorem exists_firstMention {t : Tag} {ps : List Place}
    (h : t ∈ Tag.distinct (ps.flatMap fun p => Tag.distinct p.tags)) :
    ∃ before p after, ps = before ++ p :: after ∧
      (∀ q ∈ before, t.mentioned q.tags = false) ∧ t ∈ p.tags := by
  induction ps with
  | nil => simp [Tag.distinct] at h
  | cons p ps ih =>
    rw [List.flatMap_cons, Tag.distinct_append, List.mem_append] at h
    rcases h with hhere | hlater
    · exact ⟨[], p, ps, rfl, by simp, Tag.distinct_subset _ (Tag.distinct_subset _ hhere)⟩
    -- a mention in a later list is the first one only if this list does not mention the tag
    · obtain ⟨hmem, hnot⟩ := List.mem_filter.1 hlater
      obtain ⟨before, q, after, rfl, hbefore, hq⟩ := ih hmem
      rw [Bool.not_eq_true', Tag.mentioned_distinct] at hnot
      exact ⟨p :: before, q, after, rfl, List.forall_mem_cons.2 ⟨hnot, hbefore⟩, hq⟩

end Place

/-! ## Tags of the concordance -/

namespace Concordance

/-- The concordance shows every tag as it is first mentioned. -/
theorem exists_firstMention_of_mem_tags {taxonomy : Taxonomy} {features : List Feature} {t : Tag}
    (h : t ∈ (ofFeatures taxonomy features).tags) : ∃ p, Place.FirstMention features t p := by
  obtain ⟨e, he, rfl⟩ := List.mem_map.1 h
  have hcounts : e ∈ Tag.Tally.ofTags (mentions features) := mem_entries_iff.1 he
  rw [Tag.Tally.ofTags_eq, Tag.Tally.counted, Place.mentions_eq] at hcounts
  obtain ⟨t, ht, rfl⟩ := List.mem_map.1 hcounts
  obtain ⟨before, p, after, hfirst⟩ := Place.exists_firstMention ht
  exact ⟨p, before, after, hfirst⟩

end Concordance

/-! ## The search for a place -/

namespace Survey

theorem placeIn?_eq_find? (t : Tag) (f : Feature) :
    placeIn? t f = (Place.within f).find? fun p => t.mentioned p.tags := by
  have htags : (Place.feature f).tags = f.tags := rfl
  rw [placeIn?, Place.within, List.find?_cons, List.find?_map, htags]
  cases t.mentioned f.tags with
  | true => rfl
  | false => rfl

theorem firstPlace_eq_find? (features : List Feature) (t : Tag) :
    firstPlace features t =
      ((Place.all features).find? fun p => t.mentioned p.tags).getD .corpus := by
  rw [firstPlace, Place.all, List.find?_flatMap]
  simp only [← placeIn?_eq_find?]

/-- The search finds the first mention, which is what the concordance spells. -/
theorem firstPlace_of_firstMention {features : List Feature} {t : Tag} {p : Place}
    (h : Place.FirstMention features t p) : firstPlace features t = p := by
  obtain ⟨before, after, hall, hbefore, hp⟩ := h
  have hfound : (Place.all features).find? (fun p => t.mentioned p.tags) = some p := by
    refine List.find?_eq_some_iff_append.2 ⟨?_, before, after, hall, ?_⟩
    · exact Tag.mentioned_iff.2 (List.mem_map_of_mem hp)
    · intro q hq
      rw [hbefore q hq]
      rfl
  rw [firstPlace_eq_find?, hfound]
  rfl

/-- The search finds every tag of the concordance. -/
theorem firstMention_firstPlace {taxonomy : Taxonomy} {features : List Feature} {t : Tag}
    (h : t ∈ (Concordance.ofFeatures taxonomy features).tags) :
    Place.FirstMention features t (firstPlace features t) := by
  obtain ⟨p, hp⟩ := Concordance.exists_firstMention_of_mem_tags h
  rwa [firstPlace_of_firstMention hp]

end Survey

/-! ## Observations that flag a tag -/

namespace Detect

/-- The types that flag a tag of the concordance. -/
def flagTypes : List WarningType := [.orphanedTag, .tagTypo, .ambiguousTag]

/-- The types that are about the corpus as a whole. -/
def corpusTypes : List WarningType := [.inconsistentTagging, .tooGenericTag]

/-- Whether a type of finding says something about a tag. -/
def Flags (t : Tag) (message : String) : WarningType → Prop
  | .orphanedTag => message = "'" ++ t.name ++ "' is only used once across all features"
  | .tagTypo => ∃ u : Tag, message = "'" ++ t.name ++ "' might be a typo of '" ++ u.name ++ "'"
  | .ambiguousTag => message = "'" ++ t.name ++ "' is too short and ambiguous"
  | _ => False

/-- A tag is flagged where it is first mentioned, in the spelling it has there. -/
theorem flagged_of_mem_tagQuality {criteria : Criteria} {features : List Feature}
    {type : WarningType} (htype : type ∈ flagTypes) {o : Observation}
    (ho : o ∈ tagQuality (Survey.ofFeatures criteria features) type) :
    ∃ t, Flags t o.message type ∧ Place.FirstMention features t o.place := by
  simp only [flagTypes, List.mem_cons, List.not_mem_nil, or_false] at htype
  rcases htype with rfl | rfl | rfl
  · obtain ⟨t, ht, rfl⟩ := List.mem_map.1 ho
    exact ⟨t, rfl, Survey.firstMention_firstPlace (Concordance.mem_tags_of_mem_withCount ht)⟩
  -- of two tags that are almost the same, the finding lies where the first one is mentioned
  · obtain ⟨e, he, hoe⟩ := List.mem_flatMap.1 ho
    obtain ⟨u, -, rfl⟩ := List.mem_map.1 hoe
    exact ⟨e.1, ⟨u, rfl⟩, Survey.firstMention_firstPlace (Concordance.mem_tags_of_mem_similar he)⟩
  · obtain ⟨t, ht, rfl⟩ := List.mem_map.1 ho
    exact ⟨t, rfl, Survey.firstMention_firstPlace (List.mem_of_mem_filter ht)⟩

theorem flagged_of_mem_observe {criteria : Criteria} {features : List Feature}
    {type : WarningType} (htype : type ∈ flagTypes) {o : Observation}
    (ho : o ∈ (Detector.standard type).observe (Survey.ofFeatures criteria features)) :
    ∃ t, Flags t o.message type ∧ Place.FirstMention features t o.place := by
  have hfamily : ∀ u ∈ flagTypes, u.family = .tagQuality := by decide
  rw [Detector.observe, hfamily type htype] at ho
  exact flagged_of_mem_tagQuality htype ho

/-! ## Observations on one feature -/

/-- Whether a place is a feature or a scenario of it that is no background. -/
def Standing (f : Feature) (p : Place) : Prop :=
  p = .feature f ∨ ∃ s ∈ f.foreground, p = .scenario f s

theorem behaviors_subset_foreground (f : Feature) : f.behaviors ⊆ f.foreground := by
  intro s hs
  obtain ⟨hmem, hbehavior⟩ := List.mem_filter.1 hs
  refine List.mem_filter.2 ⟨hmem, ?_⟩
  cases hkind : s.kind <;> simp_all [Scenario.isBehavior, Scenario.isBackground]

/-- What is observed scenario by scenario is observed on the scenarios. -/
theorem standing_of_mem_flatMap {f : Feature} {ss : List Scenario} (hss : ss ⊆ f.foreground)
    {look : Scenario → List Observation} (hlook : ∀ s, ∀ o ∈ look s, o.place = .scenario f s)
    {o : Observation} (ho : o ∈ ss.flatMap look) : Standing f o.place := by
  obtain ⟨s, hs, hos⟩ := List.mem_flatMap.1 ho
  exact Or.inr ⟨s, hss hs, hlook s o hos⟩

variable {c : Criteria} {f : Feature} {o : Observation}

theorem standing_missingCategory {category : Tag.Category} {label : String}
    (ho : o ∈ missingCategory c category label f) : Standing f o.place := by
  refine standing_of_mem_flatMap (behaviors_subset_foreground f) (fun s o hos => ?_) ho
  split at hos
  · simp at hos
  · rw [List.mem_singleton.1 hos]

theorem place_of_mem_lowValueAt {p : Place} {ts : List Tag} (ho : o ∈ lowValueAt c p ts) :
    o.place = p := by
  obtain ⟨t, -, hot⟩ := List.mem_flatMap.1 ho
  split at hot
  · rw [List.mem_singleton.1 hot]
  · simp at hot

theorem standing_lowValue (ho : o ∈ lowValue c f) : Standing f o.place := by
  rcases List.mem_append.1 ho with hown | hscenarios
  · exact Or.inl (place_of_mem_lowValueAt hown)
  · exact standing_of_mem_flatMap (List.Subset.refl _) (fun s o hos => place_of_mem_lowValueAt hos)
      hscenarios

theorem standing_duplicateTags (ho : o ∈ duplicateTags f) : Standing f o.place := by
  rcases List.mem_append.1 ho with hown | hscenarios
  · split at hown
    · simp at hown
    · exact Or.inl (by rw [List.mem_singleton.1 hown])
  · refine standing_of_mem_flatMap (List.Subset.refl _) (fun s o hos => ?_) hscenarios
    split at hos
    · simp at hos
    · rw [List.mem_singleton.1 hos]

theorem standing_excessiveTags (ho : o ∈ excessiveTags c f) : Standing f o.place := by
  refine standing_of_mem_flatMap (List.Subset.refl _) (fun s o hos => ?_) ho
  simp only at hos
  split at hos
  · rw [List.mem_singleton.1 hos]
  · simp at hos

theorem standing_antiPatternsIn {type : WarningType} (ho : o ∈ antiPatternsIn c type f) :
    Standing f o.place := by
  refine standing_of_mem_flatMap (behaviors_subset_foreground f) (fun s o hos => ?_) ho
  obtain ⟨message, -, rfl⟩ := List.mem_map.1 hos
  rfl

theorem standing_of_mem_tagQuality {v : Survey} {type : WarningType} (hflag : type ∉ flagTypes)
    (hcorpus : type ∉ corpusTypes) (ho : o ∈ tagQuality v type) :
    ∃ f ∈ v.features, Standing f o.place := by
  have hone : ∀ {look : Feature → List Observation}, o ∈ v.features.flatMap look →
      (∀ f, o ∈ look f → Standing f o.place) → ∃ f ∈ v.features, Standing f o.place := by
    intro look hlook hplace
    obtain ⟨f, hf, hof⟩ := List.mem_flatMap.1 hlook
    exact ⟨f, hf, hplace f hof⟩
  cases type with
  | missingPriorityTag => exact hone ho fun f => standing_missingCategory
  | missingTypeTag => exact hone ho fun f => standing_missingCategory
  | lowValueTag => exact hone ho fun f => standing_lowValue
  | duplicateTag => exact hone ho fun f => standing_duplicateTags
  | excessiveTags => exact hone ho fun f => standing_excessiveTags
  | orphanedTag => exact absurd (by decide) hflag
  | tagTypo => exact absurd (by decide) hflag
  | ambiguousTag => exact absurd (by decide) hflag
  | inconsistentTagging => exact absurd (by decide) hcorpus
  | tooGenericTag => exact absurd (by decide) hcorpus
  | _ => simp [tagQuality] at ho

theorem standing_of_mem_antiPatterns {v : Survey} {type : WarningType}
    (ho : o ∈ antiPatterns v type) : ∃ f ∈ v.features, Standing f o.place := by
  obtain ⟨f, hf, hof⟩ := List.mem_flatMap.1 ho
  exact ⟨f, hf, standing_antiPatternsIn hof⟩

/-- Every other observation stands on a feature of the corpus. -/
theorem standing_of_mem_observe {v : Survey} {type : WarningType} (hflag : type ∉ flagTypes)
    (hcorpus : type ∉ corpusTypes) (ho : o ∈ (Detector.standard type).observe v) :
    ∃ f ∈ v.features, Standing f o.place := by
  rw [Detector.observe] at ho
  cases hfamily : type.family with
  | tagQuality =>
    rw [hfamily] at ho
    exact standing_of_mem_tagQuality hflag hcorpus ho
  | antiPattern =>
    rw [hfamily] at ho
    exact standing_of_mem_antiPatterns ho

end Detect

/-! ## Findings -/

/-- Whether a finding names a feature, and with it a scenario or none. -/
structure Finding.LiesOn (g : Finding) (f : Feature) (s : Option Scenario) : Prop where
  path : g.path = f.path
  feature : g.feature = f.name
  scenario : g.scenario = s.map Scenario.name
  line : g.line = s.map Scenario.line

theorem Finding.liesOn_of {o : Observation} {f : Feature} (h : o.place.feature? = some f)
    (type : WarningType) (setting : WarningSetting) :
    (Finding.of type setting o).LiesOn f o.place.scenario? where
  path := by simp [Finding.of, h]
  feature := by simp [Finding.of, h]
  scenario := rfl
  line := rfl

namespace Outcome

/-- The findings are what the detectors observe, as far as their types are reported. -/
theorem mem_warnings_iff {c : Config} {features : List Feature} {failures : List Failure}
    {paths : List SourcePath} {g : Finding} :
    g ∈ (ofFeatures c features failures paths).warnings ↔ (c.setting g.type).enabled = true ∧
      ∃ o ∈ (Detector.standard g.type).observe (Survey.ofFeatures c.toCriteria features),
        g = Finding.of g.type (c.setting g.type) o := by
  rw [warnings, (Text.sortBy_perm _ _).mem_iff, List.mem_append, ofFeatures, mem_findingsOf_iff,
    mem_findingsOf_iff, ← or_and_right]
  refine and_iff_right ?_
  cases g.type <;> decide

/-- **Every located finding points at a real place, and at the first one.** A finding that flags a
tag lies at the first place of the corpus that mentions the tag, and the spelling it quotes stands
there. All other findings, except those about the corpus as a whole, lie on a feature of the corpus,
and on a scenario of it only if that is no background. -/
theorem warnings_located (c : Config) (features : List Feature) (failures : List Failure)
    (paths : List SourcePath) {g : Finding}
    (hg : g ∈ (ofFeatures c features failures paths).warnings) :
    (g.type ∈ Detect.flagTypes → ∃ t p, Detect.Flags t g.message g.type ∧
      Place.FirstMention features t p ∧ ∃ f ∈ features, p.feature? = some f ∧
        (∀ s ∈ p.scenario?, s ∈ f.scenarios) ∧ g.LiesOn f p.scenario?) ∧
    (g.type ∉ Detect.flagTypes → g.type ∉ Detect.corpusTypes → ∃ f ∈ features,
      ∃ s : Option Scenario, (∀ sc ∈ s, sc ∈ f.scenarios ∧ sc.isBackground = false) ∧
        g.LiesOn f s) := by
  obtain ⟨-, o, ho, hgo⟩ := mem_warnings_iff.1 hg
  -- where a finding lies is decided by the place of its observation alone
  have hlies : ∀ f p, o.place = p → p.feature? = some f → g.LiesOn f p.scenario? := by
    rintro f p rfl hf
    rw [hgo]
    exact Finding.liesOn_of hf _ _
  constructor
  · intro hflag
    obtain ⟨t, hflags, hfirst⟩ := Detect.flagged_of_mem_observe hflag ho
    obtain ⟨f, hf, hplace, hscenario⟩ := Place.exists_of_mem_all hfirst.mem_all
    have hmessage : g.message = o.message := by rw [hgo, Finding.of]
    rw [hmessage]
    exact ⟨t, o.place, hflags, hfirst, f, hf, hplace, hscenario,
      hlies f o.place rfl hplace⟩
  · intro hflag hcorpus
    obtain ⟨f, hf, hplace | ⟨s, hs, hplace⟩⟩ := Detect.standing_of_mem_observe hflag hcorpus ho
    · exact ⟨f, hf, none, by simp, hlies f _ hplace rfl⟩
    · obtain ⟨hmem, hnot⟩ := List.mem_filter.1 hs
      refine ⟨f, hf, some s, fun sc hsc => ?_, hlies f _ hplace rfl⟩
      rw [← Option.some_inj.1 hsc]
      exact ⟨hmem, by simpa using hnot⟩

/-- A corpus that mentions its tags twice, in two spellings, one of them on a background. -/
def tills : List Feature :=
  [⟨"cart.feature", "Cart", "", [.named "@Pay"],
      [⟨"basket", .background, 2, "", [.named "@qa"], [], []⟩], []⟩,
    ⟨"till.feature", "Till", "", [],
      [⟨"buy", .scenario, 3, "", [.named "@QA", .named "@pay"], ["Given a till"], []⟩], []⟩]

/-- A finding on the tag that the background mentions first. -/
def shortTag : Finding :=
  ⟨.ambiguousTag, .warning, "'@qa' is too short and ambiguous", "cart.feature", "Cart",
    some "basket", some 2, []⟩

/-- A finding on the scenario. -/
def inaction : Finding :=
  ⟨.missingWhen, .error, "Scenario is missing a When step", "till.feature", "Till", some "buy",
    some 3, []⟩

theorem warnings_located_tills :
    shortTag ∈ (ofFeatures .standard tills [] []).warnings ∧
      shortTag.type ∈ Detect.flagTypes ∧
      (∃ t p, Detect.Flags t shortTag.message shortTag.type ∧ Place.FirstMention tills t p ∧
        ∃ f ∈ tills, p.feature? = some f ∧ (∀ s ∈ p.scenario?, s ∈ f.scenarios) ∧
          shortTag.LiesOn f p.scenario?) ∧
      inaction ∈ (ofFeatures .standard tills [] []).warnings ∧
      inaction.type ∉ Detect.flagTypes ∧ inaction.type ∉ Detect.corpusTypes ∧
      ∃ f ∈ tills, ∃ s : Option Scenario,
        (∀ sc ∈ s, sc ∈ f.scenarios ∧ sc.isBackground = false) ∧ inaction.LiesOn f s := by
  have htag : .named "@qa" ∈ (Concordance.ofFeatures Taxonomy.standard tills).tags :=
    List.mem_map.2 ⟨(.named "@qa", 2), Concordance.mem_entries_iff.2 (by decide +kernel), rfl⟩
  have hshort : shortTag ∈ (ofFeatures .standard tills [] []).warnings := by
    refine mem_warnings_iff.2 ⟨rfl, _, List.mem_map_of_mem (List.mem_filter.2 ⟨htag, ?_⟩), ?_⟩
    · decide +kernel
    · decide +kernel
  have hinaction : inaction ∈ (ofFeatures .standard tills [] []).warnings :=
    (Text.sortBy_perm _ _).mem_iff.2 (List.mem_append_right _ (by decide +kernel))
  have hflag : shortTag.type ∈ Detect.flagTypes := by decide
  have hnoFlag : inaction.type ∉ Detect.flagTypes := by decide
  have hnoCorpus : inaction.type ∉ Detect.corpusTypes := by decide
  exact ⟨hshort, hflag, (warnings_located .standard tills [] [] hshort).1 hflag, hinaction, hnoFlag,
    hnoCorpus, (warnings_located .standard tills [] [] hinaction).2 hnoFlag hnoCorpus⟩

end Outcome

end FeatureAudit
