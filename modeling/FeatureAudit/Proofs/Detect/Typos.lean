import FeatureAudit.Proofs.Analysis.Similar
import FeatureAudit.Proofs.Detect.Settings

/-!
# Misspelled tags are reported in full

Of two tags of a corpus that are close to each other, each is reported once with the other as the
only suggestion, and no other tags are reported (`Outcome.typos_exact`).

* `Outcome.filter_warnings_perm`: the findings of a type are those of its standard detector.
* `Detect.tagTypos_eq`: the detector of misspelled tags goes through the close pairs of the
  concordance, each of which stands there once (`Concordance.nodup_closePairs`).
-/

set_option autoImplicit false

namespace FeatureAudit

/-! ## Findings of one type -/

namespace Registry

/-- A family has one standard detector for each of its types, and none for the others. -/
theorem filter_standard (family : Family) (type : WarningType) :
    (standard.detectors family).filter (fun d => d.type == type) =
      if type.family = family then [.standard type] else [] := by
  cases family <;> cases type <;> decide

end Registry

namespace Outcome

variable (c : Config) (features : List Feature) (failures : List Failure) (paths : List SourcePath)

/-- The findings of a type, up to their order. -/
theorem filter_warnings_perm (type : WarningType) :
    ((ofFeatures c features failures paths).warnings.filter fun g => g.type == type).Perm
      ((Detector.standard type).findings c.setting
        (Survey.ofFeatures c.toCriteria features)) := by
  have hfamily : ∀ family, (findingsOf c (Survey.ofFeatures c.toCriteria features) family).filter
      (fun g => g.type == type) = if type.family = family then
        (Detector.standard type).findings c.setting (Survey.ofFeatures c.toCriteria features)
      else [] := by
    intro family
    rw [findingsOf, Detector.filter_runAll (· == type), Registry.filter_standard]
    split
    · exact List.flatMap_singleton _ _
    · rfl
  refine ((Text.sortBy_perm _ _).filter _).trans ?_
  rw [List.filter_append, ofFeatures, hfamily, hfamily]
  cases type.family with
  | tagQuality => simp
  | antiPattern => simp

end Outcome

/-! ## Misspelled tags -/

namespace Detect

/-- What is observed about a tag that may be a misspelling of another. -/
def typo (features : List Feature) (t u : Tag) : Observation :=
  ⟨"'" ++ t.name ++ "' might be a typo of '" ++ u.name ++ "'", Survey.firstPlace features t,
    some [u.name]⟩

theorem tagTypos_eq (v : Survey) :
    tagTypos v = v.concordance.closePairs.map fun p => typo v.features p.1 p.2 := by
  rw [tagTypos, Concordance.closePairs, List.map_flatMap]
  simp only [List.map_map]
  rfl

end Detect

namespace Concordance

/-- Whether close tags are listed in full: under a tag of the concordance stand its other tags that
are close to it, in strict order; what is listed under a tag lists the tag in turn; a tag is entered
once, and only if another one is close to it. -/
structure ListsClose (c : Concordance) : Prop where
  listed : ∀ t u, c.Lists t u ↔
    t ∈ c.counts.map Prod.fst ∧ u ∈ c.counts.map Prod.fst ∧ t.Close u
  inTurn : ∀ t u, c.Lists t u ↔ c.Lists u t
  strict : ∀ e ∈ c.similar, e.2.Pairwise fun t u => Tag.compareIn c.taxonomy t u = .lt
  entered : (c.similar.map fun e => e.1.folded).Nodup
  nonempty : ∀ e ∈ c.similar, e.2 ≠ []

theorem OneEntryEach.listsClose {c : Concordance} (h : c.OneEntryEach) : c.ListsClose where
  listed t u := by rw [lists_iff h, mem_tags_iff, mem_tags_iff]
  inTurn t u := lists_comm h
  strict e he := pairwise_of_mem_similar h he
  entered := nodup_keys_similar c
  nonempty e he := ne_nil_of_mem_similar h he

end Concordance

namespace Outcome

/-- The finding about a tag that may be a misspelling of another, which it suggests. -/
def typoFinding (c : Config) (features : List Feature) (t u : Tag) : Finding :=
  { Finding.of .tagTypo (c.setting .tagTypo) (Detect.typo features t u) with
    alternatives := [u.name] }

/-- **Misspelled tags are reported in full.** Every concordance lists the tags that are close to each
other, each under the other. In an audit that reports misspelled tags, the findings of this type
stand for the ordered pairs of tags of the corpus that are close to each other: each pair has one
finding, which suggests the second tag alone, and there are no others. -/
theorem typos_exact {concordance : Concordance} (hentries : concordance.OneEntryEach) {c : Config}
    (hreported : (c.setting .tagTypo).enabled = true) (features : List Feature)
    (failures : List Failure) (paths : List SourcePath) :
    concordance.ListsClose ∧ ∃ pairs : List (Tag × Tag), pairs.Nodup ∧
      (∀ t u, (t, u) ∈ pairs ↔ Feature.firstMention? features t = some t ∧
        Feature.firstMention? features u = some u ∧ t.Close u) ∧
      ((ofFeatures c features failures paths).warnings.filter fun g => g.type == .tagTypo).Perm
        (pairs.map fun p => typoFinding c features p.1 p.2) := by
  have hcorpus := Concordance.oneEntryEach_ofFeatures c.taxonomy features
  refine ⟨hentries.listsClose, (Concordance.ofFeatures c.taxonomy features).closePairs,
    Concordance.nodup_closePairs hcorpus, fun t u => ?_, ?_⟩
  · rw [Concordance.mem_closePairs_iff, Concordance.lists_iff hcorpus,
      Concordance.mem_tags_ofFeatures, Concordance.mem_tags_ofFeatures]
  · have hfindings : (Detector.standard .tagTypo).findings c.setting
        (Survey.ofFeatures c.toCriteria features) =
          (Concordance.ofFeatures c.taxonomy features).closePairs.map
            fun p => typoFinding c features p.1 p.2 := by
      have hobserve : (Detector.standard .tagTypo).observe
          (Survey.ofFeatures c.toCriteria features) =
            Detect.tagTypos (Survey.ofFeatures c.toCriteria features) := rfl
      rw [Detector.findings_of_enabled hreported, hobserve, Detect.tagTypos_eq, List.map_map]
      rfl
    rw [← hfindings]
    exact filter_warnings_perm c features failures paths .tagTypo

/-- A corpus with a tag in two spellings, a misspelling of it, and a tag with the same key. -/
def ports : List Feature :=
  [⟨"in.feature", "Arrivals", "", [.named "@Dock"],
      [⟨"berth", .scenario, 3, "", [.named "@Dcok", .named "@dock"], [], []⟩], []⟩,
    ⟨"out.feature", "Departures", "", [.named "@d-o-c-k", .named "@pilot"], [], []⟩]

theorem typos_exact_ports :
    (Concordance.ofFeatures .standard ports).OneEntryEach ∧
      (Config.standard.setting .tagTypo).enabled = true ∧
      (Concordance.ofFeatures .standard ports).ListsClose ∧
      ∃ pairs : List (Tag × Tag), pairs.Nodup ∧
        (∀ t u, (t, u) ∈ pairs ↔ Feature.firstMention? ports t = some t ∧
          Feature.firstMention? ports u = some u ∧ t.Close u) ∧
        ((ofFeatures .standard ports [] []).warnings.filter fun g => g.type == .tagTypo).Perm
          (pairs.map fun p => typoFinding .standard ports p.1 p.2) ∧
        (.named "@Dock", .named "@Dcok") ∈ pairs ∧ (.named "@d-o-c-k", .named "@Dock") ∈ pairs ∧
        (.named "@dock", .named "@Dcok") ∉ pairs := by
  have hentries := Concordance.oneEntryEach_ofFeatures .standard ports
  have hreported : (Config.standard.setting .tagTypo).enabled = true := rfl
  obtain ⟨hlists, pairs, hnodup, hpairs, hfindings⟩ := typos_exact hentries hreported ports [] []
  refine ⟨hentries, hreported, hlists, pairs, hnodup, hpairs, hfindings, ?_, ?_, ?_⟩
  · rw [hpairs, Tag.close_iff]
    decide +kernel
  · rw [hpairs, Tag.close_iff]
    decide +kernel
  · rw [hpairs, Tag.close_iff]
    decide +kernel

end Outcome

end FeatureAudit
