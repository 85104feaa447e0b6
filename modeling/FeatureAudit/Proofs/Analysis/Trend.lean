import FeatureAudit.Analysis.Report
import FeatureAudit.Proofs.Analysis.Concordance
import FeatureAudit.Proofs.Analysis.Regression

/-!
# What trends say

Every tag of a concordance has one trend, and its figures fit together: the total of the concordance
is made up of scenarios and features, and a tag is associated with another one as often as a tag
list mentions both (`Trend.figures_agree`). Directions are those of the line of least squares over
the timeline, so they turn round when the corpus is read backwards (`Trend.leastSquares_mirrored`).

* `Trend.countP_beside`: a tag list puts every other tag it mentions beside a tag once.
* `Trend.direction_trend?`: the direction that a report gives for a tag is told by its timeline, in
  whatever spelling the tag is looked up.
-/

set_option autoImplicit false

namespace FeatureAudit

namespace Feature

/-- The number of tag lists of a corpus that mention both tags. -/
def listsWithBoth (features : List Feature) (t u : Tag) : Nat :=
  (features.flatMap tagLists).countP fun ts => t.mentioned ts && u.mentioned ts

theorem listsWithBoth_comm (features : List Feature) (t u : Tag) :
    listsWithBoth features t u = listsWithBoth features u t := by
  simp only [listsWithBoth, Bool.and_comm]

theorem listsWithBoth_le (features : List Feature) (t u : Tag) :
    listsWithBoth features t u ≤ listsWith features t :=
  List.countP_mono_left fun _ _ hboth => (Bool.and_eq_true_iff.1 hboth).1

theorem listsWith_of_perm {features features' : List Feature} (h : features.Perm features')
    (t : Tag) : listsWith features t = listsWith features' t :=
  (h.flatMap_right tagLists).countP_eq _

theorem carries_congr (f : Feature) {t u : Tag} (h : t.folded = u.folded) :
    f.carries t = f.carries u := by
  have hmentioned : ∀ ts, t.mentioned ts = u.mentioned ts := fun _ => Tag.mentioned_congr h rfl
  simp only [carries, hmentioned]

end Feature

namespace Trend

/-- A timeline has a one for just the features that carry the tag. -/
theorem timelineOf_eq (features : List Feature) (t : Tag) :
    timelineOf features t = features.map fun f => if f.carries t then 1 else 0 := by
  simp only [timelineOf, Feature.mentioned_tagSet]

/-! ## Associated tags -/

/-- A tag list that mentions two tags puts the one beside the other once. -/
theorem countP_beside (t u : Tag) (ts : List Tag) : (beside t ts).countP u.same =
    if t.same u then 0 else if t.mentioned ts && u.mentioned ts then 1 else 0 := by
  rw [beside]
  by_cases ht : t.mentioned ts
  · rw [if_pos ht, List.countP_filter, ht, Bool.true_and]
    by_cases htu : t.same u
    · rw [if_pos htu, List.countP_eq_zero]
      intro v _ hv
      obtain ⟨huv, htv⟩ := Bool.and_eq_true_iff.1 hv
      have hsame : t.same v = true :=
        Tag.same_iff.2 ((Tag.same_iff.1 htu).trans (Tag.same_iff.1 huv))
      simp [hsame] at htv
    · have hother : ∀ v, (u.same v && !t.same v) = u.same v := by
        intro v
        by_cases huv : u.same v
        · have htv : t.same v = false := by
            rw [Bool.eq_false_iff, ne_eq, Tag.same_iff, ← Tag.same_iff.1 huv, ← Tag.same_iff]
            exact htu
          simp [htv]
        · simp [huv]
      rw [if_neg htu]
      simp only [hother]
      exact Tag.countP_distinct u ts
  · simp [ht]

/-- A tag is never associated with itself, and with another one as often as a tag list mentions
both. -/
theorem count_associatedIn (features : List Feature) (t u : Tag) :
    (associatedIn features t).count u =
      if t.same u then 0 else (Feature.listsWithBoth features t u : Int) := by
  have hcount : ((features.flatMap Feature.tagLists).flatMap (beside t)).countP u.same =
      if t.same u then 0 else Feature.listsWithBoth features t u := by
    rw [Feature.listsWithBoth]
    induction features.flatMap Feature.tagLists with
    | nil => simp
    | cons ts lists ih =>
      rw [List.flatMap_cons, List.countP_append, ih, countP_beside, List.countP_cons]
      by_cases htu : t.same u
      · simp [htu]
      · simp only [if_neg htu]
        omega
  rw [associatedIn, Tag.Tally.count_ofTags, hcount]
  split <;> rfl

/-- The tags that are associated with a tag are those with a positive number. -/
theorem has_associatedIn (features : List Feature) (t u : Tag) :
    (associatedIn features t).has u = true ↔ 0 < (associatedIn features t).count u := by
  rw [associatedIn, Tag.Tally.has_ofTags, Tag.Tally.count_ofTags, Tag.mentioned_iff_countP]
  exact Int.natCast_pos.symm

theorem count_associatedIn_comm (features : List Feature) (t u : Tag) :
    (associatedIn features t).count u = (associatedIn features u).count t := by
  rw [count_associatedIn, count_associatedIn, Tag.same_comm, Feature.listsWithBoth_comm]

theorem count_associatedIn_le (features : List Feature) (t u : Tag) :
    (associatedIn features t).count u ≤ Feature.listsWith features t := by
  have hle := Feature.listsWithBoth_le features t u
  rw [count_associatedIn]
  split <;> omega

theorem has_associatedIn_self (features : List Feature) (t : Tag) :
    (associatedIn features t).has t = false := by
  have hzero : (associatedIn features t).count t = 0 := by
    rw [count_associatedIn, if_pos (Tag.same_iff.2 rfl)]
  rw [Bool.eq_false_iff, ne_eq, has_associatedIn, hzero]
  omega

/-! ## Figures -/

section Figures

variable (taxonomy : Taxonomy) (features : List Feature)

theorem map_tag_ofFeatures (c : Concordance) : (ofFeatures features c).map tag = c.tags := by
  rw [ofFeatures, List.map_map]
  exact List.map_id _

theorem ofTag_mem_ofFeatures {t : Tag} (h : t ∈ Tag.distinct (Concordance.mentions features)) :
    ofTag features (Concordance.ofFeatures taxonomy features) t ∈
      ofFeatures features (Concordance.ofFeatures taxonomy features) :=
  List.mem_map_of_mem ((Concordance.tags_perm taxonomy features).mem_iff.2 h)

theorem total_ofTag (t : Tag) :
    (ofTag features (Concordance.ofFeatures taxonomy features) t).total =
      Feature.listsWith features t :=
  Concordance.count_ofFeatures taxonomy features t

end Figures

/-- **The figures of trends agree with the concordance.** Each tag of the concordance of a corpus
has one trend. Its total is the count of the tag, made up of the scenarios and the features that have
the tag themselves. It is associated with another tag as often as a tag list of a feature or a
scenario mentions both, never with itself, and as often as the other with it; neither total is
less. -/
theorem figures_agree (taxonomy : Taxonomy) (features : List Feature) :
    let c := Concordance.ofFeatures taxonomy features
    let trends := ofFeatures features c
    trends.map tag = c.tags ∧
      (∀ t : Tag, (trends.countP fun d => t.same d.tag) = if c.has t then 1 else 0) ∧
      ∀ d ∈ trends, d.total = c.count d.tag ∧ d.total = d.scenarios + d.features ∧
        (∀ t, d.tag.same t = false →
          d.associated.count t = Feature.listsWithBoth features d.tag t) ∧
        (∀ t, d.associated.has t = true ↔ 0 < d.associated.count t) ∧
        d.associated.has d.tag = false ∧
        ∀ e ∈ trends, d.associated.count e.tag = e.associated.count d.tag ∧
          d.associated.count e.tag ≤ d.total ∧ d.associated.count e.tag ≤ e.total := by
  intro c trends
  refine ⟨map_tag_ofFeatures features c, fun t => ?_, fun d hd => ?_⟩
  · have htags : (trends.countP fun d => t.same d.tag) = c.tags.countP t.same := by
      rw [← map_tag_ofFeatures features c, List.countP_map]
      rfl
    rw [htags, Concordance.countP_tags]
    simp only [c, Concordance.has_ofFeatures]
  · obtain ⟨t, -, rfl⟩ := List.mem_map.1 hd
    have htotal : ∀ u, (ofTag features c u).total = Feature.listsWith features u :=
      total_ofTag taxonomy features
    refine ⟨rfl, ?_, fun u hu => ?_, has_associatedIn features t, has_associatedIn_self features t,
      fun e he => ?_⟩
    · rw [htotal, Feature.listsWith_eq, Int.natCast_add, Int.add_comm]
      rfl
    · exact (count_associatedIn features t u).trans (if_neg (Bool.eq_false_iff.1 hu))
    · obtain ⟨u, -, rfl⟩ := List.mem_map.1 he
      have hcomm := count_associatedIn_comm features t u
      refine ⟨hcomm, ?_, ?_⟩
      · rw [htotal]
        exact count_associatedIn_le features t u
      · rw [htotal]
        exact hcomm.trans_le (count_associatedIn_le features u t)

/-- A corpus that mentions one tag in two spellings and twice in a list, and both tags on a
background. The second feature mentions one of them. -/
def depot : List Feature :=
  [⟨"in.feature", "Intake", "", [.named "@Goods"],
      [⟨"shift", .background, 3, "", [.named "@night", .named "@goods"], [], []⟩,
        ⟨"weigh", .scenario, 5, "", [.named "@GOODS", .named "@Night", .named "@goods"], [], []⟩],
      []⟩,
    ⟨"out.feature", "Dispatch", "", [.named "@night"], [], []⟩]

theorem figures_agree_depot :
    let c := Concordance.ofFeatures .standard depot
    let goods := ofTag depot c (.named "@Goods")
    let night := ofTag depot c (.named "@night")
    goods ∈ ofFeatures depot c ∧ night ∈ ofFeatures depot c ∧ goods.tag.same night.tag = false ∧
      goods.scenarios = 2 ∧ goods.features = 1 ∧
      Feature.listsWithBoth depot goods.tag night.tag = 2 ∧
      goods.total = c.count goods.tag ∧ goods.total = goods.scenarios + goods.features ∧
      goods.associated.count night.tag =
        Feature.listsWithBoth depot goods.tag night.tag ∧
      goods.associated.has goods.tag = false ∧
      goods.associated.count night.tag = night.associated.count goods.tag ∧
      goods.associated.count night.tag ≤ goods.total ∧
      goods.associated.count night.tag ≤ night.total := by
  intro c goods night
  have hgoods : goods ∈ ofFeatures depot c :=
    ofTag_mem_ofFeatures .standard depot (by decide +kernel)
  have hnight : night ∈ ofFeatures depot c :=
    ofTag_mem_ofFeatures .standard depot (by decide +kernel)
  have hother : goods.tag.same night.tag = false := by decide +kernel
  obtain ⟨-, -, htrends⟩ := figures_agree .standard depot
  obtain ⟨htotal, hparts, hboth, -, hself, hpairs⟩ := htrends goods hgoods
  exact ⟨hgoods, hnight, hother, by decide +kernel, by decide +kernel, by decide +kernel, htotal,
    hparts, hboth night.tag hother, hself, hpairs night hnight⟩

/-! ## Directions -/

section Directions

variable (taxonomy : Taxonomy) (features : List Feature)

theorem timelineOf_congr {t u : Tag} (h : t.folded = u.folded) :
    timelineOf features t = timelineOf features u := by
  rw [timelineOf_eq, timelineOf_eq]
  exact List.map_congr_left fun f _ => by rw [f.carries_congr h]

theorem timelineOf_reverse (t : Tag) :
    timelineOf features.reverse t = (timelineOf features t).reverse :=
  List.map_reverse

/-- The direction that a report gives for a tag. -/
theorem direction_trend? (t : Tag) :
    ((Report.ofFeatures taxonomy features).trend? t).map direction =
      if 0 < Feature.listsWith features t then some (Direction.ofValues (timelineOf features t))
      else none := by
  have hcount := Concordance.countP_tags taxonomy features t
  have hfind : ((Report.ofFeatures taxonomy features).trend? t).map direction =
      ((Concordance.ofFeatures taxonomy features).tags.find? t.same).map fun u =>
        Direction.ofValues (timelineOf features u) := by
    rw [Report.trend?, Report.ofFeatures, Report.ofConcordance, ofFeatures, List.find?_map,
      Option.map_map]
    rfl
  rw [hfind]
  cases htag : (Concordance.ofFeatures taxonomy features).tags.find? t.same with
  | none =>
    rw [List.countP_eq_zero.2 (List.find?_eq_none.1 htag)] at hcount
    have hnone : ¬ 0 < Feature.listsWith features t := by
      intro hpos
      rw [if_pos hpos] at hcount
      omega
    rw [if_neg hnone]
    rfl
  | some u =>
    have hsame : t.same u = true := List.find?_some htag
    have hpos : 0 < Feature.listsWith features t := by
      by_contra hnone
      rw [if_neg hnone, List.countP_eq_zero] at hcount
      exact hcount u (List.mem_of_find?_eq_some htag) hsame
    rw [if_pos hpos, Option.map_some, timelineOf_congr features (Tag.same_iff.1 hsame)]

theorem direction_trend?_reverse (t : Tag) :
    ((Report.ofFeatures taxonomy features.reverse).trend? t).map direction =
      (((Report.ofFeatures taxonomy features).trend? t).map direction).map
        Direction.opposite := by
  rw [direction_trend?, direction_trend?, timelineOf_reverse, Direction.ofValues_reverse,
    Feature.listsWith_of_perm features.reverse_perm]
  split <;> rfl

theorem direction_of_forall_carries {t : Tag} (h : ∀ f ∈ features, f.carries t = true) :
    Direction.ofValues (timelineOf features t) = .stable := by
  have htimeline : timelineOf features t = List.replicate features.length 1 := by
    rw [timelineOf_eq, ← List.map_const']
    exact List.map_congr_left fun f hf => if_pos (h f hf)
  rw [htimeline, Direction.ofValues_replicate]

end Directions

open Regression in
/-- **The slope is that of least squares, and turns round with the corpus.** In exact arithmetic the
slope of two values or more has a positive denominator with a closed form, is the slope of just the
lines with the least sum of squared distances, stays as it is when all values are raised, and
changes its sign when they are reversed. The direction of a trend is that of the exact slope of its
timeline. So for a corpus read backwards the report gives every tag the opposite direction; and a tag
that all features carry, or that stands in a corpus of one feature, goes in no direction. -/
theorem leastSquares_mirrored (taxonomy : Taxonomy) (features : List Feature) :
    (∀ values : List ℚ, 2 ≤ values.length →
      (denominator values.length : ℚ) =
          (values.length : ℚ) ^ 2 * ((values.length : ℚ) ^ 2 - 1) / 12 ∧
        0 < denominator values.length ∧
        rationalSlope values = numerator .rationals values / denominator values.length ∧
        (∀ slope, (∃ intercept, FitsBest values intercept slope) ↔ slope = rationalSlope values) ∧
        (∀ c, rationalSlope (values.map (· + c)) = rationalSlope values) ∧
        rationalSlope values.reverse = -rationalSlope values) ∧
      (∀ d ∈ (Report.ofFeatures taxonomy features).trends,
        d.timeline = timelineOf features d.tag ∧
          d.direction = Direction.ofRational (rationalSlope (d.timeline.map Int.cast)) ∧
          ((∀ f ∈ features, f.carries d.tag = true) ∨ features.length = 1 →
            d.direction = .stable)) ∧
      ∀ t, ((Report.ofFeatures taxonomy features.reverse).trend? t).map direction =
        (((Report.ofFeatures taxonomy features).trend? t).map direction).map
          Direction.opposite := by
  refine ⟨fun values hlength => ?_, fun d hd => ?_, direction_trend?_reverse taxonomy features⟩
  · have hclosed : (12 : ℚ) * denominator values.length =
        (values.length : ℚ) ^ 2 * ((values.length : ℚ) ^ 2 - 1) := by
      exact_mod_cast twelve_mul_denominator values.length
    exact ⟨by rw [← hclosed]; ring, denominator_pos hlength, rationalSlope_eq values,
      fun _ => exists_fitsBest_iff hlength, rationalSlope_map_add values,
      rationalSlope_reverse values⟩
  · obtain ⟨t, -, rfl⟩ := List.mem_map.1 hd
    refine ⟨rfl, Direction.ofValues_eq _, ?_⟩
    rintro (hall | hone)
    · exact direction_of_forall_carries features hall
    · have hshort : (timelineOf features t).length < 2 := by
        rw [timelineOf, List.length_map]
        omega
      exact Direction.ofValues_of_short hshort

open Regression in
theorem leastSquares_mirrored_depot :
    let report := Report.ofFeatures .standard depot
    let goods := ofTag depot report.concordance (.named "@Goods")
    let night := ofTag depot report.concordance (.named "@night")
    2 ≤ [(0 : ℚ), 1, 3].length ∧ goods ∈ report.trends ∧ night ∈ report.trends ∧
      (∀ f ∈ depot, f.carries night.tag = true) ∧
      denominator 3 = 6 ∧ rationalSlope [0, 1, 3] = 3 / 2 ∧
      (denominator 3 : ℚ) = 3 ^ 2 * (3 ^ 2 - 1) / 12 ∧
      (∃ intercept, FitsBest [0, 1, 3] intercept (3 / 2)) ∧
      rationalSlope [5, 6, 8] = 3 / 2 ∧ rationalSlope [3, 1, 0] = -(3 / 2) ∧
      goods.timeline = [1, 0] ∧ goods.direction = .declining ∧ night.direction = .stable ∧
      ((Report.ofFeatures .standard depot.reverse).trend? (.named "@GOODS")).map direction =
        some .rising := by
  intro report goods night
  obtain ⟨hlists, htrends, hreverse⟩ := leastSquares_mirrored .standard depot
  have hlength : 2 ≤ [(0 : ℚ), 1, 3].length := by decide
  have hgoods : goods ∈ report.trends :=
    ofTag_mem_ofFeatures .standard depot (by decide +kernel)
  have hnight : night ∈ report.trends :=
    ofTag_mem_ofFeatures .standard depot (by decide +kernel)
  have hall : ∀ f ∈ depot, f.carries night.tag = true := by decide +kernel
  have hslope : rationalSlope [0, 1, 3] = 3 / 2 := by decide +kernel
  have hdirection : goods.direction = .declining := by decide +kernel
  obtain ⟨hclosed, -, -, hfits, hraised, hreversed⟩ := hlists [0, 1, 3] hlength
  refine ⟨hlength, hgoods, hnight, hall, by decide +kernel, hslope, hclosed, ?_, ?_, ?_,
    by decide +kernel, hdirection, (htrends night hnight).2.2 (Or.inl hall), ?_⟩
  · exact (hfits (3 / 2)).2 hslope.symm
  · have h := hraised 5
    norm_num at h
    rw [h, hslope]
  · rw [← hslope]
    exact hreversed
  · have hlists : 0 < Feature.listsWith depot (.named "@GOODS") := by decide +kernel
    have hvalues : Direction.ofValues (timelineOf depot (.named "@GOODS")) = .declining := by
      decide +kernel
    rw [hreverse, direction_trend?, if_pos hlists, hvalues]
    rfl

end Trend

end FeatureAudit
