import FeatureAudit.Detect.Registry
import FeatureAudit.Pattern.Engine
import FeatureAudit.Proofs.Tag.Distinct

/-!
# Repeated tags are those that get lost

The tags that hold for a scenario are the first mentions of the feature's tags followed by its own
(`Tag.firstMentions_distinct`). A tag is found to be repeated in a list exactly if the list mentions
it twice (`mentioned_duplicates_iff`), and exactly then a mention is no first mention. So nothing is
said about the tags of a feature and of its scenario exactly if all of them hold for the scenario as
they stand (`Detector.duplicateTag_exact`).
-/

set_option autoImplicit false

namespace FeatureAudit

/-- Whether tags of a list name each tag with a property once, and no others. -/
structure Tag.NamesOnce (us ts : List Tag) (p : Tag → Prop) : Prop where
  once : (us.map Tag.folded).Nodup
  named : ∀ t : Tag, t.mentioned us = true ↔ p t
  /-- A tag is spelled as somewhere in the list. -/
  spelled : us ⊆ ts

namespace Detect

/-! ## Tags that a list repeats -/

section Lists

variable {t : Tag} {ts us : List Tag}

/-- Of the mentions of a tag all are repeats but the first, which is one if the tag was seen. -/
theorem countP_repeatsAfter (t : Tag) (seen ts : List Tag) :
    (repeatsAfter seen ts).countP t.same =
      ts.countP t.same - if t.mentioned seen then 0 else 1 := by
  induction ts generalizing seen with
  | nil => simp [repeatsAfter]
  | cons u us ih =>
    have hcons : t.mentioned (u :: seen) = (t.same u || t.mentioned seen) := rfl
    rw [repeatsAfter]
    by_cases htu : t.same u
    · have hseen : u.mentioned seen = t.mentioned seen :=
        Tag.mentioned_congr (Tag.same_iff.1 htu).symm rfl
      by_cases ht : t.mentioned seen <;> simp [hseen, ht, htu, ih, hcons]
    · by_cases hu : u.mentioned seen <;> simp [hu, htu, ih, hcons]

/-- A list repeats a tag exactly if it mentions it twice. -/
theorem mentioned_duplicates_iff : t.mentioned (duplicates ts) = true ↔ 2 ≤ ts.countP t.same := by
  have hcount := countP_repeatsAfter t [] ts
  have hnone : t.mentioned [] = false := rfl
  rw [hnone, if_neg Bool.false_ne_true] at hcount
  rw [duplicates, Tag.mentioned_distinct, Tag.mentioned_iff_countP, hcount]
  omega

theorem repeatsAfter_sublist (seen ts : List Tag) : (repeatsAfter seen ts).Sublist ts := by
  induction ts generalizing seen with
  | nil => exact List.Sublist.slnil
  | cons t ts ih =>
    rw [repeatsAfter]
    split
    · exact (ih seen).cons_cons t
    · exact (ih (t :: seen)).cons t

theorem namesOnce_duplicates (ts : List Tag) :
    Tag.NamesOnce (duplicates ts) ts fun t => 2 ≤ ts.countP t.same where
  once := Tag.nodup_folded_distinct _
  named _ := mentioned_duplicates_iff
  spelled := List.Subset.trans (Tag.distinct_subset _) (repeatsAfter_sublist [] ts).subset

theorem eq_nil_iff_forall_not_mentioned :
    ts = [] ↔ ∀ t : Tag, t.mentioned ts = false := by
  constructor
  · rintro rfl t
    rfl
  · intro h
    rw [List.eq_nil_iff_forall_not_mem]
    intro t ht
    have hself : t.mentioned ts = true := List.any_eq_true.2 ⟨t, ht, Tag.same_iff.2 rfl⟩
    rw [h t] at hself
    contradiction

theorem duplicates_eq_nil_iff : duplicates ts = [] ↔ (ts.map Tag.folded).Nodup := by
  rw [eq_nil_iff_forall_not_mentioned, List.nodup_iff_count_le_one]
  constructor
  · intro h name
    by_contra htwice
    have hmem : name ∈ ts.map Tag.folded := List.count_pos_iff.1 (by omega)
    obtain ⟨t, -, rfl⟩ := List.mem_map.1 hmem
    have hnot := h t
    rw [Bool.eq_false_iff, ne_eq, mentioned_duplicates_iff, Tag.countP_same] at hnot
    omega
  · intro h t
    rw [Bool.eq_false_iff, ne_eq, mentioned_duplicates_iff, Tag.countP_same]
    have hle := h t.folded
    omega

/-- The tags of a second list that a first one mentions, each once. -/
def shared (us ts : List Tag) : List Tag := (Tag.distinct ts).filter fun t => t.mentioned us

theorem mentioned_shared_iff :
    t.mentioned (shared us ts) = true ↔ t.mentioned ts = true ∧ t.mentioned us = true := by
  rw [← Tag.mentioned_distinct t ts]
  simp only [shared, Tag.mentioned, List.any_eq_true, List.mem_filter]
  constructor
  · rintro ⟨u, ⟨hu, v, hv, huv⟩, htu⟩
    exact ⟨⟨u, hu, htu⟩, v, hv, Tag.same_iff.2 ((Tag.same_iff.1 htu).trans (Tag.same_iff.1 huv))⟩
  · rintro ⟨⟨u, hu, htu⟩, v, hv, htv⟩
    exact ⟨u, ⟨hu, v, hv, Tag.same_iff.2 ((Tag.same_iff.1 htu).symm.trans (Tag.same_iff.1 htv))⟩,
      htu⟩

theorem namesOnce_shared (us ts : List Tag) :
    Tag.NamesOnce (shared us ts) ts fun t => t.mentioned ts = true ∧ t.mentioned us = true where
  once := (Tag.nodup_folded_distinct ts).sublist (List.filter_sublist.map _)
  named _ := mentioned_shared_iff
  spelled := List.Subset.trans (List.filter_subset_self _) (Tag.distinct_subset ts)

theorem shared_eq_nil_iff :
    shared us ts = [] ↔ (us.map Tag.folded).Disjoint (ts.map Tag.folded) := by
  rw [eq_nil_iff_forall_not_mentioned]
  constructor
  · intro h name hus hts
    obtain ⟨t, -, rfl⟩ := List.mem_map.1 hts
    have hnot := h t
    rw [Bool.eq_false_iff, ne_eq, mentioned_shared_iff, Tag.mentioned_iff, Tag.mentioned_iff] at hnot
    exact hnot ⟨hts, hus⟩
  · intro h t
    rw [Bool.eq_false_iff, ne_eq, mentioned_shared_iff, Tag.mentioned_iff, Tag.mentioned_iff]
    rintro ⟨hts, hus⟩
    exact h hus hts

end Lists

/-! ## What is observed -/

/-- What is said about the tags that a feature repeats. -/
def onFeature (f : Feature) : Observation :=
  ⟨"Feature has duplicate tags: " ++ Text.joinWith ", " ((duplicates f.tags).map Tag.name),
    .feature f, none⟩

/-- What is said about the tags that a scenario repeats. -/
def onScenario (f : Feature) (s : Scenario) : Observation :=
  ⟨"Scenario has duplicate tags: " ++ Text.joinWith ", " (duplicateParts f s), .scenario f s, none⟩

variable {v : Survey} {f : Feature} {s : Scenario} {o : Observation}

theorem duplicateParts_eq_nil_iff :
    duplicateParts f s = [] ↔ duplicates s.tags = [] ∧ shared f.tags s.tags = [] := by
  rw [duplicateParts, List.append_eq_nil_iff, List.map_eq_nil_iff, List.map_eq_nil_iff]
  rfl

theorem mem_singleton_unless_nil {α β : Type} {as : List α} {b c : β} :
    b ∈ (if as.isEmpty then [] else [c]) ↔ as ≠ [] ∧ b = c := by
  cases as with
  | nil => simp
  | cons a as => simp

theorem mem_duplicateTags_iff : o ∈ duplicateTags f ↔
    duplicates f.tags ≠ [] ∧ o = onFeature f ∨
      ∃ s ∈ f.foreground, duplicateParts f s ≠ [] ∧ o = onScenario f s := by
  rw [duplicateTags, List.mem_append, List.mem_flatMap]
  refine or_congr ?_ (exists_congr fun s => and_congr_right fun _ => ?_)
  · exact mem_singleton_unless_nil
  · exact mem_singleton_unless_nil

/-- Observations about repeated tags. -/
def repeats (v : Survey) : List Observation := (Detector.standard .duplicateTag).observe v

theorem mem_repeats_iff : o ∈ repeats v ↔ ∃ f ∈ v.features, o ∈ duplicateTags f :=
  List.mem_flatMap

/-- A feature is reported once if it repeats a tag. -/
theorem mem_repeats_feature_iff : (o ∈ repeats v ∧ o.place = .feature f) ↔
    f ∈ v.features ∧ duplicates f.tags ≠ [] ∧ o = onFeature f := by
  rw [mem_repeats_iff]
  constructor
  · rintro ⟨⟨f', hf', ho⟩, hplace⟩
    rcases mem_duplicateTags_iff.1 ho with ⟨hne, rfl⟩ | ⟨s, -, -, rfl⟩
    · obtain rfl : f' = f := Place.feature.inj hplace
      exact ⟨hf', hne, rfl⟩
    · cases hplace
  · rintro ⟨hf, hne, rfl⟩
    exact ⟨⟨f, hf, mem_duplicateTags_iff.2 (Or.inl ⟨hne, rfl⟩)⟩, rfl⟩

/-- A scenario is reported once if it repeats a tag of its own or of its feature. -/
theorem mem_repeats_scenario_iff : (o ∈ repeats v ∧ o.place = .scenario f s) ↔
    f ∈ v.features ∧ s ∈ f.foreground ∧ duplicateParts f s ≠ [] ∧ o = onScenario f s := by
  rw [mem_repeats_iff]
  constructor
  · rintro ⟨⟨f', hf', ho⟩, hplace⟩
    rcases mem_duplicateTags_iff.1 ho with ⟨-, rfl⟩ | ⟨s', hs', hne, rfl⟩
    · cases hplace
    · obtain ⟨rfl, rfl⟩ := Place.scenario.inj hplace
      exact ⟨hf', hs', hne, rfl⟩
  · rintro ⟨hf, hs, hne, rfl⟩
    exact ⟨⟨f, hf, mem_duplicateTags_iff.2 (Or.inr ⟨s, hs, hne, rfl⟩)⟩, rfl⟩

/-- Nothing gets lost exactly if neither list repeats a tag and they share none. -/
theorem effectiveTags_eq_append_iff : f.effectiveTags s = f.tags ++ s.tags ↔
    duplicates f.tags = [] ∧ duplicateParts f s = [] := by
  rw [Feature.effectiveTags, Tag.distinct_eq_self_iff, List.map_append, List.nodup_append',
    duplicateParts_eq_nil_iff, duplicates_eq_nil_iff, duplicates_eq_nil_iff, shared_eq_nil_iff]

end Detect

namespace Detector

open Detect in
/-- **Repeated tags are those that get lost.** The tags that hold for a scenario are the first
mentions among the tags of its feature followed by its own. Nothing is observed on a feature of the
corpus nor on a scenario of it that is no background exactly if all these tags hold as they stand. What
is said about the feature names each tag once that it mentions twice; what is said about the scenario
names each tag once that it mentions twice, and once that its feature has already. -/
theorem duplicateTag_exact (v : Survey) :
    (∀ (f : Feature) (s : Scenario), Tag.FirstMentions (f.tags ++ s.tags) (f.effectiveTags s)) ∧
    ∀ f ∈ v.features,
      (∀ o ∈ (standard .duplicateTag).observe v, o.place = .feature f →
        ∃ twice, Tag.NamesOnce twice f.tags (fun t => 2 ≤ f.tags.countP t.same) ∧
          o.message = "Feature has duplicate tags: " ++ Text.joinWith ", " (twice.map Tag.name)) ∧
      ∀ s ∈ f.scenarios, s.kind ≠ .background →
        ((∀ o ∈ (standard .duplicateTag).observe v,
            o.place ≠ .feature f ∧ o.place ≠ .scenario f s) ↔
          f.effectiveTags s = f.tags ++ s.tags) ∧
        ∀ o ∈ (standard .duplicateTag).observe v, o.place = .scenario f s →
          ∃ twice already, Tag.NamesOnce twice s.tags (fun t => 2 ≤ s.tags.countP t.same) ∧
            Tag.NamesOnce already s.tags
              (fun t => t.mentioned s.tags = true ∧ t.mentioned f.tags = true) ∧
            o.message = "Scenario has duplicate tags: " ++ Text.joinWith ", "
              (twice.map Tag.name ++ already.map fun t => t.name ++ " (already on feature)") := by
  refine ⟨fun f s => Tag.firstMentions_distinct _, fun f hf => ⟨?_, fun s hs hkind => ⟨?_, ?_⟩⟩⟩
  · intro o ho hplace
    obtain ⟨-, -, rfl⟩ := mem_repeats_feature_iff.1 ⟨ho, hplace⟩
    exact ⟨duplicates f.tags, namesOnce_duplicates f.tags, rfl⟩
  · have hforeground : s ∈ f.foreground := by
      rw [Feature.foreground, List.mem_filter]
      exact ⟨hs, by simpa [Scenario.isBackground] using hkind⟩
    rw [effectiveTags_eq_append_iff]
    constructor
    · intro hsilent
      constructor
      · by_contra hne
        obtain ⟨ho, hplace⟩ := mem_repeats_feature_iff.2 ⟨hf, hne, rfl⟩
        exact (hsilent _ ho).1 hplace
      · by_contra hne
        obtain ⟨ho, hplace⟩ := mem_repeats_scenario_iff.2 ⟨hf, hforeground, hne, rfl⟩
        exact (hsilent _ ho).2 hplace
    · rintro ⟨hown, hparts⟩ o ho
      constructor
      · intro hplace
        exact (mem_repeats_feature_iff.1 ⟨ho, hplace⟩).2.1 hown
      · intro hplace
        exact (mem_repeats_scenario_iff.1 ⟨ho, hplace⟩).2.2.1 hparts
  · intro o ho hplace
    obtain ⟨-, -, -, rfl⟩ := mem_repeats_scenario_iff.1 ⟨ho, hplace⟩
    exact ⟨duplicates s.tags, shared f.tags s.tags, namesOnce_duplicates s.tags,
      namesOnce_shared f.tags s.tags, rfl⟩

/-- A scenario that repeats a tag of its own in three spellings and one of its feature. -/
def dim : Scenario :=
  ⟨"dim", .scenario, 3, "", [.named "@Slow", .named "@slow", .named "@p1", .named "@SLOW"], [], []⟩

/-- A scenario that repeats nothing. -/
def dark : Scenario := ⟨"dark", .outline, 9, "", [.named "@Night"], [], []⟩

/-- A feature with both. -/
def stage : Feature :=
  ⟨"stage.feature", "Stage", "", [.named "@P1", .named "@UI"], [dim, dark], []⟩

theorem duplicateTag_exact_stage :
    let v := Survey.ofFeatures .standard [stage]
    stage ∈ v.features ∧ dim ∈ stage.scenarios ∧ dim.kind ≠ .background ∧
      dark ∈ stage.scenarios ∧ dark.kind ≠ .background ∧
      stage.effectiveTags dim = [.named "@P1", .named "@UI", .named "@Slow"] ∧
      Tag.FirstMentions (stage.tags ++ dim.tags) (stage.effectiveTags dim) ∧
      (∀ o ∈ (standard .duplicateTag).observe v,
        o.place ≠ .feature stage ∧ o.place ≠ .scenario stage dark) ∧
      (¬ ∀ o ∈ (standard .duplicateTag).observe v,
        o.place ≠ .feature stage ∧ o.place ≠ .scenario stage dim) ∧
      ((standard .duplicateTag).observe v).map Observation.message =
        ["Scenario has duplicate tags: @slow, @p1 (already on feature)"] := by
  intro v
  have hdim : dim.kind ≠ .background := by decide
  have hdark : dark.kind ≠ .background := by decide
  have hf : stage ∈ v.features := List.mem_singleton_self stage
  have hdimIn : dim ∈ stage.scenarios := List.mem_cons_self ..
  have hdarkIn : dark ∈ stage.scenarios := List.mem_cons_of_mem _ (List.mem_singleton_self dark)
  obtain ⟨hfirst, hfeatures⟩ := duplicateTag_exact v
  obtain ⟨-, hscenarios⟩ := hfeatures stage hf
  refine ⟨hf, hdimIn, hdim, hdarkIn, hdark, by decide +kernel, hfirst stage dim, ?_, ?_,
    by decide +kernel⟩
  · rw [(hscenarios dark hdarkIn hdark).1]
    decide +kernel
  · rw [(hscenarios dim hdimIn hdim).1]
    decide +kernel

end Detector

end FeatureAudit
