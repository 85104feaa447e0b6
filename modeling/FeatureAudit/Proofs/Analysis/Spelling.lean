import FeatureAudit.Analysis.Report
import FeatureAudit.Proofs.Analysis.CoOccurrence
import FeatureAudit.Proofs.Analysis.Similar
import FeatureAudit.Proofs.Tag.Spelling

/-!
# Reports do not depend on capital letters

A corpus whose tags lose their capital letters keeps its counts (`Concordance.ofFeatures_uncapped`),
its trends (`Trend.ofFeatures_uncapped`) and, up to their order, its co-occurrences
(`CoOccurrence.ofFeatures_uncapped`): each of them is as before, with the tags it shows without
capital letters.
-/

set_option autoImplicit false

namespace FeatureAudit

/-! ## Features -/

/-- The scenario with its tags without capital letters. -/
def Scenario.uncapped (s : Scenario) : Scenario := { s with tags := s.tags.map Tag.uncapped }

namespace Feature

/-- The feature with all its tags without capital letters. -/
def uncapped (f : Feature) : Feature :=
  { f with tags := f.tags.map Tag.uncapped, scenarios := f.scenarios.map Scenario.uncapped }

variable (f : Feature) (s : Scenario) (t : Tag)

theorem effectiveTags_uncapped :
    f.uncapped.effectiveTags s.uncapped = (f.effectiveTags s).map Tag.uncapped := by
  rw [effectiveTags, effectiveTags, ← Tag.distinct_map_uncapped, List.map_append]
  rfl

theorem behaviors_uncapped : f.uncapped.behaviors = f.behaviors.map Scenario.uncapped := by
  simp only [behaviors, uncapped, List.filter_map]
  rfl

theorem foreground_uncapped : f.uncapped.foreground = f.foreground.map Scenario.uncapped := by
  simp only [foreground, uncapped, List.filter_map]
  rfl

theorem tagLists_uncapped : f.uncapped.tagLists = f.tagLists.map (List.map Tag.uncapped) := by
  simp [tagLists, uncapped, Function.comp_def, Scenario.uncapped]

@[simp] theorem carries_uncapped : f.uncapped.carries t = f.carries t := by
  simp [carries, uncapped, Function.comp_def, Scenario.uncapped]

@[simp] theorem carries_tag_uncapped : f.carries t.uncapped = f.carries t := by
  simp [carries]

/-- What is gathered from tag lists one by one loses its capital letters with them. -/
theorem flatMap_tagLists_uncapped {g g' : List Tag → List Tag}
    (h : ∀ ts, g (ts.map Tag.uncapped) = (g' ts).map Tag.uncapped) (features : List Feature) :
    ((features.map uncapped).flatMap tagLists).flatMap g =
      ((features.flatMap tagLists).flatMap g').map Tag.uncapped := by
  simp only [List.flatMap_map, List.map_flatMap, List.flatMap_assoc, tagLists_uncapped, h]

end Feature

/-! ## Counts -/

namespace Concordance

/-- The concordance with its tags without capital letters. -/
def uncapped (c : Concordance) : Concordance := { c with counts := c.counts.uncapped }

theorem ofFeatures_uncapped (taxonomy : Taxonomy) (features : List Feature) :
    ofFeatures taxonomy (features.map Feature.uncapped) =
      (ofFeatures taxonomy features).uncapped := by
  have hmentions : mentions (features.map Feature.uncapped) =
      (mentions features).map Tag.uncapped :=
    Feature.flatMap_tagLists_uncapped Tag.distinct_map_uncapped features
  rw [ofFeatures, ofFeatures, hmentions, Tag.Tally.ofTags_map_uncapped]
  rfl

@[simp] theorem count_uncapped (c : Concordance) (t : Tag) : c.uncapped.count t = c.count t :=
  Tag.Tally.count_uncapped t c.counts

@[simp] theorem count_tag_uncapped (c : Concordance) (t : Tag) :
    c.count t.uncapped = c.count t := by
  simp [count, Tag.Tally.count, Tag.Tally.get?]

variable {c : Concordance} (h : c.OneEntryEach)

include h

theorem OneEntryEach.uncapped : c.uncapped.OneEntryEach := by
  have hfolded : (c.uncapped.counts.map fun e => e.1.folded) = c.counts.map fun e => e.1.folded := by
    rw [Concordance.uncapped, Tag.Tally.uncapped, List.map_map]
    simp [Function.comp_def]
  rw [OneEntryEach, hfolded]
  exact h

theorem entries_uncapped : c.uncapped.entries = c.entries.uncapped := by
  refine (Text.map_sortBy (f := fun e : Tag × Int => (e.1.uncapped, e.2)) ?_).symm
  intro e he f hf
  refine Tag.compareIn_uncapped c.taxonomy fun heq => ?_
  rw [List.inj_on_of_nodup_map h he hf heq]

theorem tags_uncapped : c.uncapped.tags = c.tags.map Tag.uncapped := by
  rw [tags, tags, entries_uncapped h, Tag.Tally.uncapped, List.map_map, List.map_map]
  rfl

theorem withCount_uncapped (p : Int → Bool) :
    c.uncapped.withCount p = (c.withCount p).map Tag.uncapped := by
  simp only [withCount, entries_uncapped h, Tag.Tally.uncapped, List.filter_map, List.map_map]
  rfl

/-- Tags are as close to each other as before. -/
theorem similar_uncapped : c.uncapped.similar =
    c.similar.map fun e => (e.1.uncapped, e.2.map Tag.uncapped) := by
  have hsuspects : suspects (c.tags.map Tag.uncapped) = (suspects c.tags).map Tag.uncapped := by
    rw [suspects, suspects, ← Tag.distinct_map_uncapped, bothWays, bothWays, Tag.pairs_map,
      List.filter_map, List.flatMap_map, List.map_flatMap, List.map_flatMap, List.map_flatMap]
    simp [Function.comp_def]
  have hneighbours : ∀ t, neighbours (c.tags.map Tag.uncapped) t.uncapped =
      (neighbours c.tags t).map Tag.uncapped := by
    intro t
    simp [neighbours, List.filter_map, Function.comp_def]
  rw [h.uncapped.similar_eq, h.similar_eq, tags_uncapped h]
  simp [hsuspects, hneighbours]

end Concordance

/-! ## Trends -/

namespace Trend

/-- The trend with its tags without capital letters. -/
def uncapped (d : Trend) : Trend :=
  { d with tag := d.tag.uncapped, associated := d.associated.uncapped }

theorem beside_uncapped (t : Tag) (ts : List Tag) :
    beside t.uncapped (ts.map Tag.uncapped) = (beside t ts).map Tag.uncapped := by
  simp only [beside, Tag.mentioned_uncapped, Tag.mentioned_map_uncapped, Tag.distinct_map_uncapped,
    List.filter_map, apply_ite (List.map Tag.uncapped), List.map_nil]
  simp [Function.comp_def]

theorem associatedIn_uncapped (features : List Feature) (t : Tag) :
    associatedIn (features.map Feature.uncapped) t.uncapped =
      (associatedIn features t).uncapped := by
  rw [associatedIn, associatedIn, ← Tag.Tally.ofTags_map_uncapped,
    Feature.flatMap_tagLists_uncapped (beside_uncapped t)]

theorem ofTag_uncapped (features : List Feature) (c : Concordance) (t : Tag) :
    ofTag (features.map Feature.uncapped) c.uncapped t.uncapped =
      (ofTag features c t).uncapped := by
  have hscenarios : (features.map Feature.uncapped).flatMap Feature.scenarios =
      (features.flatMap Feature.scenarios).map Scenario.uncapped := by
    rw [List.flatMap_map, List.map_flatMap]
    rfl
  have htimeline : timelineOf (features.map Feature.uncapped) t.uncapped =
      timelineOf features t := by
    simp [timelineOf, Feature.mentioned_tagSet]
  simp [ofTag, uncapped, htimeline, associatedIn_uncapped, hscenarios, List.countP_map,
    Function.comp_def, Scenario.uncapped, Feature.uncapped]

theorem ofFeatures_uncapped {c : Concordance} (h : c.OneEntryEach) (features : List Feature) :
    ofFeatures (features.map Feature.uncapped) c.uncapped =
      (ofFeatures features c).map uncapped := by
  rw [ofFeatures, Concordance.tags_uncapped h, ofFeatures, List.map_map, List.map_map]
  exact List.map_congr_left fun t _ => ofTag_uncapped features c t

end Trend

/-! ## Co-occurrences -/

namespace CoOccurrence

/-- The co-occurrence with its tags without capital letters. -/
def uncapped (e : CoOccurrence) : CoOccurrence :=
  { e with first := e.first.uncapped, second := e.second.uncapped }

theorem tagSets_uncapped (features : List Feature) :
    tagSets (features.map Feature.uncapped) = (tagSets features).map (List.map Tag.uncapped) := by
  simp only [tagSets, List.flatMap_map, List.map_flatMap, Feature.foreground_uncapped,
    List.map_map, Function.comp_def, Feature.effectiveTags_uncapped]

theorem meetings_uncapped {sets : List (List Tag)}
    (h : ∀ set ∈ sets, (set.map Tag.folded).Nodup) :
    meetings (sets.map (List.map Tag.uncapped)) =
      (meetings sets).map (Prod.map Tag.uncapped Tag.uncapped) := by
  rw [meetings, meetings, List.flatMap_map, List.map_flatMap]
  refine List.flatMap_congr fun set hset => ?_
  rw [Tag.sortBy_map_uncapped (h set hset), Tag.pairs_map]

theorem distinctPairs_uncapped (ps : List (Tag × Tag)) :
    distinctPairs (ps.map (Prod.map Tag.uncapped Tag.uncapped)) =
      (distinctPairs ps).map (Prod.map Tag.uncapped Tag.uncapped) := by
  induction ps with
  | nil => rfl
  | cons p ps ih => simp [distinctPairs, ih, List.filter_map, Function.comp_def, samePair]

theorem ofPair_uncapped (sets : List (List Tag)) (met : List (Tag × Tag)) (p : Tag × Tag) :
    ofPair (sets.map (List.map Tag.uncapped)) (met.map (Prod.map Tag.uncapped Tag.uncapped))
        (Prod.map Tag.uncapped Tag.uncapped p) =
      (ofPair sets met p).uncapped := by
  have hcarriers : ∀ t : Tag, carriers (sets.map (List.map Tag.uncapped)) t.uncapped =
      carriers sets t := by
    intro t
    rw [carriers, carriers, List.countP_map]
    exact List.countP_congr fun set _ => by simp
  have hboth : (met.map (Prod.map Tag.uncapped Tag.uncapped)).countP
      (samePair (Prod.map Tag.uncapped Tag.uncapped p)) = met.countP (samePair p) := by
    rw [List.countP_map]
    exact List.countP_congr fun q _ => by simp [samePair]
  simp only [ofPair, uncapped, Prod.map_fst, Prod.map_snd, hcarriers, hboth]

/-- The order may change, since spellings decide between co-occurrences with equal counts. -/
theorem ofFeatures_uncapped (features : List Feature) :
    (ofFeatures (features.map Feature.uncapped)).Perm ((ofFeatures features).map uncapped) := by
  have hentries : (distinctPairs (meetings (tagSets (features.map Feature.uncapped)))).map
        (ofPair (tagSets (features.map Feature.uncapped))
          (meetings (tagSets (features.map Feature.uncapped)))) =
      ((distinctPairs (meetings (tagSets features))).map
        (ofPair (tagSets features) (meetings (tagSets features)))).map uncapped := by
    rw [tagSets_uncapped, meetings_uncapped fun _ => nodup_of_mem_tagSets, distinctPairs_uncapped,
      List.map_map, List.map_map]
    exact List.map_congr_left fun p _ => ofPair_uncapped _ _ p
  refine (Text.sortBy_perm _ _).trans ?_
  rw [hentries]
  exact ((Text.sortBy_perm _ _).map uncapped).symm

end CoOccurrence

end FeatureAudit
