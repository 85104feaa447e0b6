import FeatureAudit.Proofs.Analysis.Spelling
import FeatureAudit.Proofs.Detect.Settings
import FeatureAudit.Proofs.Tag.Name

/-!
# Audits do not depend on capital letters

A corpus whose tags lose their capital letters is given the same findings, at the same places and in
the same order; only what they quote may change. Two corpora that differ in capital letters of tags
alone are therefore audited alike (`Outcome.audit_respelled`).

* `Detect.observe_uncapped`: every detector makes its observations at the same places, with one
  lemma for each detector.
* `Detector.map_unworded_runAll`: so the findings of all detectors differ in their words alone.
* `Outcome.alike_respelled`: both corpora have one form without capital letters, and each is audited
  as that form is.
-/

set_option autoImplicit false

namespace FeatureAudit

/-! ## Places -/

/-- The place in the corpus whose tags have no capital letters. -/
def Place.uncapped : Place → Place
  | .corpus => .corpus
  | .feature f => .feature f.uncapped
  | .scenario f s => .scenario f.uncapped s.uncapped

namespace Survey

/-- The survey of the corpus whose tags have no capital letters. -/
def uncapped (v : Survey) : Survey :=
  ⟨v.features.map Feature.uncapped, v.criteria, v.concordance.uncapped⟩

theorem ofFeatures_uncapped (criteria : Criteria) (features : List Feature) :
    ofFeatures criteria (features.map Feature.uncapped) =
      (ofFeatures criteria features).uncapped := by
  rw [ofFeatures, Concordance.ofFeatures_uncapped]
  rfl

theorem placeIn?_uncapped (t : Tag) (f : Feature) :
    placeIn? t.uncapped f.uncapped = (placeIn? t f).map Place.uncapped := by
  have htags : t.uncapped.mentioned f.uncapped.tags = t.mentioned f.tags := by
    rw [Tag.mentioned_uncapped]
    exact Tag.mentioned_map_uncapped t f.tags
  have hscenario : (f.uncapped.scenarios.find? fun s => t.uncapped.mentioned s.tags) =
      (f.scenarios.find? fun s => t.mentioned s.tags).map Scenario.uncapped := by
    simp [Feature.uncapped, List.find?_map, Function.comp_def, Scenario.uncapped]
  rw [placeIn?, placeIn?, htags, hscenario]
  split
  · rfl
  · rw [Option.map_map, Option.map_map]
    rfl

/-- The first mention of a tag keeps its place. -/
theorem firstPlace_uncapped (features : List Feature) (t : Tag) :
    firstPlace (features.map Feature.uncapped) t.uncapped = (firstPlace features t).uncapped := by
  have hsome : (features.map Feature.uncapped).findSome? (placeIn? t.uncapped) =
      (features.findSome? (placeIn? t)).map Place.uncapped := by
    rw [List.findSome?_map, List.map_findSome?]
    exact congrArg (features.findSome? ·) (funext fun f => placeIn?_uncapped t f)
  rw [firstPlace, firstPlace, hsome]
  cases features.findSome? (placeIn? t) <;> rfl

theorem carriers_uncapped (features : List Feature) (t : Tag) :
    carriers (features.map Feature.uncapped) t.uncapped = carriers features t := by
  simp [carriers, List.countP_map, Function.comp_def]

end Survey

namespace Detect

/-! ## Observations at the same places -/

/-- Whether observations are made one by one at the places of others, with tags without capital
letters. -/
def UncappedPlaces (os' os : List Observation) : Prop :=
  os'.map Observation.place = os.map fun o => o.place.uncapped

theorem UncappedPlaces.append {os' os rest' rest : List Observation} (h : UncappedPlaces os' os)
    (hrest : UncappedPlaces rest' rest) : UncappedPlaces (os' ++ rest') (os ++ rest) := by
  rw [UncappedPlaces, List.map_append, List.map_append, h, hrest]

theorem UncappedPlaces.flatMap {α β : Type} {g : α → β} {h' : β → List Observation}
    {h : α → List Observation} {xs : List α}
    (hx : ∀ a ∈ xs, UncappedPlaces (h' (g a)) (h a)) :
    UncappedPlaces ((xs.map g).flatMap h') (xs.flatMap h) := by
  rw [UncappedPlaces, List.flatMap_map, List.map_flatMap, List.map_flatMap]
  exact List.flatMap_congr hx

theorem UncappedPlaces.map {α β : Type} {g : α → β} {h' : β → Observation} {h : α → Observation}
    {xs : List α} (hx : ∀ a ∈ xs, (h' (g a)).place = (h a).place.uncapped) :
    UncappedPlaces ((xs.map g).map h') (xs.map h) := by
  rw [UncappedPlaces, List.map_map, List.map_map, List.map_map]
  exact List.map_congr_left hx

/-! ## One feature at a time -/

theorem missingCategory_uncapped (c : Criteria) (category : Tag.Category) (label : String)
    (f : Feature) :
    UncappedPlaces (missingCategory c category label f.uncapped)
      (missingCategory c category label f) := by
  rw [missingCategory, missingCategory, f.behaviors_uncapped]
  refine .flatMap fun s _ => ?_
  simp only [Feature.effectiveTags_uncapped, List.any_map, Function.comp_def,
    Tag.categoryOf_uncapped]
  split <;> rfl

theorem lowValueAt_uncapped (c : Criteria) (place : Place) (tags : List Tag) :
    UncappedPlaces (lowValueAt c place.uncapped (tags.map Tag.uncapped))
      (lowValueAt c place tags) := by
  rw [lowValueAt, lowValueAt, Tag.distinct_map_uncapped]
  refine .flatMap fun t _ => ?_
  rw [Criteria.isLowValue, Criteria.isLowValue, Tag.mentioned_uncapped]
  split <;> rfl

theorem lowValue_uncapped (c : Criteria) (f : Feature) :
    UncappedPlaces (lowValue c f.uncapped) (lowValue c f) := by
  rw [lowValue, lowValue, f.foreground_uncapped]
  refine (lowValueAt_uncapped c (.feature f) f.tags).append (.flatMap fun s _ => ?_)
  exact lowValueAt_uncapped c (.scenario f s) s.tags

theorem repeatsAfter_uncapped (seen ts : List Tag) :
    repeatsAfter (seen.map Tag.uncapped) (ts.map Tag.uncapped) =
      (repeatsAfter seen ts).map Tag.uncapped := by
  induction ts generalizing seen with
  | nil => rfl
  | cons t ts ih =>
    have hseen := ih (t :: seen)
    rw [List.map_cons] at hseen
    simp only [List.map_cons, repeatsAfter, Tag.mentioned_uncapped, Tag.mentioned_map_uncapped, ih,
      hseen]
    split <;> rfl

theorem duplicates_uncapped (ts : List Tag) :
    duplicates (ts.map Tag.uncapped) = (duplicates ts).map Tag.uncapped := by
  have hrepeats := repeatsAfter_uncapped [] ts
  rw [List.map_nil] at hrepeats
  rw [duplicates, hrepeats, Tag.distinct_map_uncapped, duplicates]

theorem isEmpty_duplicateParts_uncapped (f : Feature) (s : Scenario) :
    (duplicateParts f.uncapped s.uncapped).isEmpty = (duplicateParts f s).isEmpty := by
  have hown : duplicates s.uncapped.tags = (duplicates s.tags).map Tag.uncapped :=
    duplicates_uncapped s.tags
  have hshared : ((Tag.distinct s.uncapped.tags).filter fun t => t.mentioned f.uncapped.tags) =
      ((Tag.distinct s.tags).filter fun t => t.mentioned f.tags).map Tag.uncapped := by
    simp [Scenario.uncapped, Feature.uncapped, Tag.distinct_map_uncapped, List.filter_map,
      Function.comp_def]
  rw [Bool.eq_iff_iff, List.isEmpty_iff, List.isEmpty_iff, duplicateParts, hown, hshared,
    duplicateParts]
  simp only [List.append_eq_nil_iff, List.map_eq_nil_iff]

theorem duplicateTags_uncapped (f : Feature) :
    UncappedPlaces (duplicateTags f.uncapped) (duplicateTags f) := by
  have hown : (duplicates f.uncapped.tags).isEmpty = (duplicates f.tags).isEmpty := by
    rw [Feature.uncapped, duplicates_uncapped, List.isEmpty_map]
  rw [duplicateTags, duplicateTags, f.foreground_uncapped, hown]
  refine .append (by split <;> rfl) (.flatMap fun s _ => ?_)
  rw [isEmpty_duplicateParts_uncapped]
  split <;> rfl

theorem excessiveTags_uncapped (c : Criteria) (f : Feature) :
    UncappedPlaces (excessiveTags c f.uncapped) (excessiveTags c f) := by
  rw [excessiveTags, excessiveTags, f.foreground_uncapped]
  refine .flatMap fun s _ => ?_
  simp only [Feature.effectiveTags_uncapped, List.length_map]
  split <;> rfl

/-- What is wrong with a scenario is not a matter of its tags. -/
theorem antiPatternsIn_uncapped (c : Criteria) (type : WarningType) (f : Feature) :
    UncappedPlaces (antiPatternsIn c type f.uncapped) (antiPatternsIn c type f) := by
  rw [antiPatternsIn, antiPatternsIn, f.behaviors_uncapped]
  refine .flatMap fun s _ => ?_
  have hfaults : scenarioFaults c s.uncapped type = scenarioFaults c s type := by
    cases type <;> rfl
  rw [hfaults, UncappedPlaces, List.map_map, List.map_map]
  rfl

/-! ## The corpus as a whole -/

section Corpus

variable {v : Survey} (h : v.concordance.OneEntryEach)

include h

theorem orphanedTags_uncapped : UncappedPlaces (orphanedTags v.uncapped) (orphanedTags v) := by
  have horphaned : v.uncapped.concordance.orphaned =
      v.concordance.orphaned.map Tag.uncapped := Concordance.withCount_uncapped h _
  rw [orphanedTags, orphanedTags, horphaned]
  exact .map fun t _ => Survey.firstPlace_uncapped v.features t

theorem tagTypos_uncapped : UncappedPlaces (tagTypos v.uncapped) (tagTypos v) := by
  rw [tagTypos, tagTypos, Survey.uncapped, Concordance.similar_uncapped h]
  refine .flatMap fun (t, others) _ => .map fun u _ => ?_
  exact Survey.firstPlace_uncapped v.features t

theorem priorityStyles_uncapped : priorityStyles v.uncapped = priorityStyles v := by
  simp [priorityStyles, Survey.uncapped, Concordance.tags_uncapped h, List.filter_map,
    List.filterMap_map, Function.comp_def]

theorem inconsistentTagging_uncapped :
    UncappedPlaces (inconsistentTagging v.uncapped) (inconsistentTagging v) := by
  rw [inconsistentTagging, inconsistentTagging, priorityStyles_uncapped h]
  split <;> rfl

theorem ambiguousTags_uncapped : UncappedPlaces (ambiguousTags v.uncapped) (ambiguousTags v) := by
  simp only [ambiguousTags, Survey.uncapped, Concordance.tags_uncapped h, List.filter_map,
    Function.comp_def, Tag.length_name_uncapped, Tag.categoryOf_uncapped]
  exact .map fun t _ => Survey.firstPlace_uncapped v.features t

theorem genericTags_uncapped : UncappedPlaces (genericTags v.uncapped) (genericTags v) := by
  simp only [genericTags, Survey.uncapped, Concordance.tags_uncapped h, List.length_map]
  split
  · rfl
  · refine .flatMap fun t _ => ?_
    rw [Survey.carriers_uncapped]
    split <;> rfl

/-! ## All detectors -/

theorem tagQuality_uncapped (type : WarningType) :
    UncappedPlaces (tagQuality v.uncapped type) (tagQuality v type) := by
  cases type with
  | missingPriorityTag => exact .flatMap fun f _ => missingCategory_uncapped v.criteria _ _ f
  | missingTypeTag => exact .flatMap fun f _ => missingCategory_uncapped v.criteria _ _ f
  | lowValueTag => exact .flatMap fun f _ => lowValue_uncapped v.criteria f
  | duplicateTag => exact .flatMap fun f _ => duplicateTags_uncapped f
  | excessiveTags => exact .flatMap fun f _ => excessiveTags_uncapped v.criteria f
  | orphanedTag => exact orphanedTags_uncapped h
  | tagTypo => exact tagTypos_uncapped h
  | inconsistentTagging => exact inconsistentTagging_uncapped h
  | ambiguousTag => exact ambiguousTags_uncapped h
  | tooGenericTag => exact genericTags_uncapped h
  | _ => rfl

/-- Every detector makes its observations at the same places. -/
theorem observe_uncapped (d : Detector) :
    UncappedPlaces (d.observe v.uncapped) (d.observe v) := by
  cases d with
  | standard type =>
    simp only [Detector.observe]
    split
    · exact tagQuality_uncapped h type
    · exact .flatMap fun f _ => antiPatternsIn_uncapped v.criteria type f
  | note type label => exact .map fun f _ => rfl

end Corpus

end Detect

/-! ## Findings -/

/-- A finding without what it says and suggests. -/
def Finding.unworded (f : Finding) : Finding := { f with message := "", alternatives := [] }

/-- The finding at a place, without what it says and suggests. -/
def Finding.bare (type : WarningType) (setting : WarningSetting) (place : Place) : Finding :=
  Finding.of type setting ⟨"", place, some []⟩

theorem Finding.bare_uncapped (type : WarningType) (setting : WarningSetting) (place : Place) :
    bare type setting place.uncapped = bare type setting place := by
  cases place <;> rfl

namespace Detector

variable {v : Survey} (h : v.concordance.OneEntryEach) (setting : WarningType → WarningSetting)

include h

theorem map_unworded_findings (d : Detector) :
    (d.findings setting v.uncapped).map Finding.unworded =
      (d.findings setting v).map Finding.unworded := by
  -- without its words a finding is told by its place
  have hbare : ∀ os : List Observation,
      (os.map (Finding.of d.type (setting d.type))).map Finding.unworded =
        (os.map Observation.place).map (Finding.bare d.type (setting d.type)) := by
    intro os
    rw [List.map_map, List.map_map]
    rfl
  rw [findings_eq, findings_eq]
  split
  · rw [hbare, hbare, Detect.observe_uncapped h d, List.map_map, List.map_map]
    exact List.map_congr_left fun o _ => Finding.bare_uncapped d.type _ o.place
  · rfl

/-- The findings of any detectors are the same without capital letters, except for what they say
and suggest. -/
theorem map_unworded_runAll (ds : List Detector) :
    (runAll setting v.uncapped ds).map Finding.unworded =
      (runAll setting v ds).map Finding.unworded := by
  rw [runAll_eq, runAll_eq, List.map_flatMap, List.map_flatMap]
  exact List.flatMap_congr fun d _ => map_unworded_findings h setting d

end Detector

/-! ## Outcomes -/

/-- Trends that say the same about the same tag. -/
structure Trend.Alike (d d' : Trend) : Prop where
  tag : d.tag.same d'.tag = true
  slope : d.slope = d'.slope
  direction : d.direction = d'.direction
  total : d.total = d'.total
  scenarios : d.scenarios = d'.scenarios
  features : d.features = d'.features
  associated : ∀ t, (d.associated.get? t).map Prod.snd = (d'.associated.get? t).map Prod.snd

theorem Trend.alike_of_uncapped {d d' : Trend} (h : d.uncapped = d'.uncapped) : d.Alike d' := by
  have htimeline : d.timeline = d'.timeline := congrArg (·.timeline) h
  have htag : d.tag.uncapped = d'.tag.uncapped := congrArg (·.tag) h
  have hassociated : d.associated.uncapped = d'.associated.uncapped := congrArg (·.associated) h
  constructor
  case tag => rw [Tag.same_iff, ← d.tag.folded_uncapped, htag, Tag.folded_uncapped]
  case slope => rw [slope, slope, htimeline]
  case direction => rw [direction, direction, htimeline]
  case total => exact congrArg (·.total) h
  case scenarios => exact congrArg (·.scenarios) h
  case features => exact congrArg (·.features) h
  case associated =>
    intro t
    rw [← Tag.Tally.get?_uncapped, hassociated, Tag.Tally.get?_uncapped]

/-- Looking a tag up in trends that differ in spelling alone gives trends that say the same. -/
theorem Trend.find?_alike {ds ds' : List Trend} (h : ds.map uncapped = ds'.map uncapped) (t : Tag) :
    Option.Rel Alike (ds.find? fun d => t.same d.tag) (ds'.find? fun d => t.same d.tag) := by
  have hfind : ∀ ds : List Trend, (ds.find? fun d => t.same d.tag).map uncapped =
      (ds.map uncapped).find? fun d => t.same d.tag := by
    intro ds
    rw [List.find?_map]
    simp [Function.comp_def, uncapped]
  have heq : (ds.find? fun d => t.same d.tag).map uncapped =
      (ds'.find? fun d => t.same d.tag).map uncapped := by
    rw [hfind, hfind, h]
  revert heq
  cases ds.find? fun d => t.same d.tag with
  | none => cases ds'.find? fun d => t.same d.tag with
    | none => exact fun _ => .none
    | some d' =>
      intro heq
      cases heq
  | some d => cases ds'.find? fun d => t.same d.tag with
    | none =>
      intro heq
      cases heq
    | some d' => exact fun heq => .some (alike_of_uncapped (Option.some.inj heq))

namespace Outcome

/-- Outcomes that differ at most in how tags are spelled: every tag has the same count and the same
trend, the same tags co-occur in the same numbers of scenarios, and the findings are the same one by
one, except for what they say and suggest. -/
structure Alike (o o' : Outcome) : Prop where
  counts : ∀ t, o.report.concordance.count t = o'.report.concordance.count t
  pairs : (o.report.pairs.map CoOccurrence.uncapped).Perm
    (o'.report.pairs.map CoOccurrence.uncapped)
  trends : ∀ t, Option.Rel Trend.Alike (o.report.trend? t) (o'.report.trend? t)
  tagQuality : o.tagQuality.map Finding.unworded = o'.tagQuality.map Finding.unworded
  antiPatterns : o.antiPatterns.map Finding.unworded = o'.antiPatterns.map Finding.unworded

section Respelled

variable {features features' : List Feature}
  (h : features.map Feature.uncapped = features'.map Feature.uncapped)

include h

theorem count_respelled (taxonomy : Taxonomy) (t : Tag) :
    (Concordance.ofFeatures taxonomy features).count t =
      (Concordance.ofFeatures taxonomy features').count t := by
  rw [← Concordance.count_uncapped, ← Concordance.ofFeatures_uncapped, h,
    Concordance.ofFeatures_uncapped, Concordance.count_uncapped]

theorem pairs_respelled :
    ((CoOccurrence.ofFeatures features).map CoOccurrence.uncapped).Perm
      ((CoOccurrence.ofFeatures features').map CoOccurrence.uncapped) := by
  have hperm := CoOccurrence.ofFeatures_uncapped features
  rw [h] at hperm
  exact hperm.symm.trans (CoOccurrence.ofFeatures_uncapped features')

theorem trends_respelled (taxonomy : Taxonomy) :
    (Trend.ofFeatures features (Concordance.ofFeatures taxonomy features)).map Trend.uncapped =
      (Trend.ofFeatures features' (Concordance.ofFeatures taxonomy features')).map
        Trend.uncapped := by
  have hone := Concordance.oneEntryEach_ofFeatures taxonomy
  rw [← Trend.ofFeatures_uncapped (hone features), ← Concordance.ofFeatures_uncapped, h,
    Concordance.ofFeatures_uncapped, Trend.ofFeatures_uncapped (hone features')]

theorem findingsOf_respelled (c : Config) (family : Family) :
    (findingsOf c (Survey.ofFeatures c.toCriteria features) family).map Finding.unworded =
      (findingsOf c (Survey.ofFeatures c.toCriteria features') family).map Finding.unworded := by
  have hone := Concordance.oneEntryEach_ofFeatures c.taxonomy
  rw [findingsOf, findingsOf, ← Detector.map_unworded_runAll (hone features),
    ← Survey.ofFeatures_uncapped, h, Survey.ofFeatures_uncapped,
    Detector.map_unworded_runAll (hone features')]

theorem alike_respelled (c : Config) (failures : List Failure) (paths : List SourcePath) :
    Alike (ofFeatures c features failures paths) (ofFeatures c features' failures paths) := by
  constructor
  case counts => exact count_respelled h c.taxonomy
  case pairs => exact pairs_respelled h
  case trends =>
    intro t
    exact Trend.find?_alike (trends_respelled h c.taxonomy) t
  case tagQuality => exact findingsOf_respelled h c .tagQuality
  case antiPatterns => exact findingsOf_respelled h c .antiPattern

omit h in
theorem Alike.quotesTooMuch {o o' : Outcome} (h : o.Alike o') (c : Config) :
    quotesTooMuch c o = quotesTooMuch c o' := by
  have hany : ∀ fs : List Finding, (fs.any fun f => tooLong c f.type) =
      (fs.map Finding.unworded).any fun f => tooLong c f.type := by
    intro fs
    rw [List.any_map]
    rfl
  rw [Outcome.quotesTooMuch, Outcome.quotesTooMuch, hany, List.map_append, h.tagQuality,
    h.antiPatterns, ← List.map_append, ← hany]

/-- **Capital letters never change an audit.** Corpora that differ in capital letters of tags alone
are audited alike under every configuration, and one audit gives a result if the other does. -/
theorem audit_respelled (c : Config) (failures : List Failure) (paths : List SourcePath) :
    Option.Rel Alike (ofFeatures? c features failures paths)
      (ofFeatures? c features' failures paths) := by
  have halike := alike_respelled h c failures paths
  simp only [ofFeatures?, halike.quotesTooMuch c]
  split
  · exact .none
  · exact .some halike

end Respelled

/-- A document that mentions a tag on its feature and, in some spelling, on a scenario. -/
def tickets (spelled : String) : List Feature :=
  [{ Feature.blank "tickets.feature" with
      tags := [.named "@Smoke"]
      scenarios := [⟨"sell", .scenario, 3, "", [.named spelled], ["Given a seat"], []⟩] }]

/-- What is said about repeated tags in a document. -/
def repeated (features : List Feature) : List String :=
  (Detector.findings Config.standard.setting (Survey.ofFeatures .standard features)
    (.standard .duplicateTag)).map Finding.message

theorem audit_respelled_tickets :
    (tickets "@smoke").map Feature.uncapped = (tickets "@sMOKE").map Feature.uncapped ∧
      repeated (tickets "@smoke") = ["Scenario has duplicate tags: @smoke (already on feature)"] ∧
      repeated (tickets "@sMOKE") = ["Scenario has duplicate tags: @sMOKE (already on feature)"] ∧
      (ofFeatures? .standard (tickets "@smoke") [] []).isSome = true ∧
      Option.Rel Alike (ofFeatures? .standard (tickets "@smoke") [] [])
        (ofFeatures? .standard (tickets "@sMOKE") [] []) := by
  have hname : Text.uncap "@smoke" = Text.uncap "@sMOKE" := by decide +kernel
  have htag : (Tag.named "@smoke").uncapped = (Tag.named "@sMOKE").uncapped :=
    Tag.eq_of_name_eq hname
  have h : (tickets "@smoke").map Feature.uncapped = (tickets "@sMOKE").map Feature.uncapped := by
    simp [tickets, Feature.uncapped, Scenario.uncapped, htag]
  have hwritten := ofFeatures?_eq_some_of_lt natAbs_threshold_standard_lt (tickets "@smoke") [] []
  exact ⟨h, by decide +kernel, by decide +kernel, by rw [hwritten, Option.isSome_some],
    audit_respelled h .standard [] []⟩

end Outcome

end FeatureAudit
