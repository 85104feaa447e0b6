import FeatureAudit.Proofs.Config.Resolution
import FeatureAudit.Proofs.Detect.Places
import FeatureAudit.Proofs.Dialect.Annotation
import FeatureAudit.Proofs.Document.WellFormed

/-!
# The list of findings is canonical

Findings are sorted by path, line, type and message. This leaves out most of what a finding says, but
in a corpus that was read from texts with different paths the four of them determine the rest
(`Outcome.eq_of_compare_eq`), so that the sorted list is the same in whatever order the detectors run
(`Outcome.warnings_canonical`).

* `Place.eq_of_mem_all`: path and line tell the places of a corpus apart.
* `Detect.mem_all_of_mem_observe`, `Detect.place_of_mem_corpus`: every observation of a type lies on
  such a place, or every one lies on the corpus as a whole.
* `Detect.typoMessage_inj`: the only detector that suggests something of its own quotes it, and the
  words of the message tell where the quotation begins.
-/

set_option autoImplicit false

namespace FeatureAudit

/-! ## The order of findings -/

namespace Finding

instance : Std.TransCmp Finding.compare :=
  Text.transCmp_then (Text.transCmp_on Finding.path) <|
    Text.transCmp_then (Text.transCmp_on Finding.sortLine) <|
      Text.transCmp_then (Text.transCmp_on fun f : Finding => f.type.name)
        (Text.transCmp_on Finding.message)

theorem compare_eq_eq_iff {g h : Finding} : Finding.compare g h = .eq ↔
    g.path = h.path ∧ g.sortLine = h.sortLine ∧ g.type.name = h.type.name ∧
      g.message = h.message := by
  simp only [Finding.compare, Ordering.then_eq_eq, Std.LawfulEqCmp.compare_eq_iff_eq]

end Finding

theorem WarningType.name_inj {t u : WarningType} (h : t.name = u.name) : t = u := by
  have ht : WarningType.ofName? t.name = some t := Config.ofName?_eq_some_iff.2 rfl
  have hu : WarningType.ofName? t.name = some u := Config.ofName?_eq_some_iff.2 h
  exact Option.some.inj (ht.symm.trans hu)

/-! ## Places -/

theorem Form.wellFormed_read (form : Form) (text path : String) :
    (form.read text path).WellFormed := by
  have hplain := Document.wellFormed_read text path
  cases form with
  | plain => exact hplain
  | scripted =>
    rw [Form.read, Dialect.read, Dialect.annotate_eq]
    generalize Document.read text path = f at hplain ⊢
    exact ⟨hplain.lines, hplain.tags⟩

/-- A line tells a scenario of the feature, or that there is none. -/
theorem Feature.WellFormed.scenario_inj {f : Feature} (hf : f.WellFormed) {s t : Option Scenario}
    (hs : ∀ a ∈ s, a ∈ f.scenarios) (ht : ∀ a ∈ t, a ∈ f.scenarios)
    (h : (s.map Scenario.line).getD 0 = (t.map Scenario.line).getD 0) : s = t := by
  obtain ⟨hpos, hrising⟩ := List.pairwise_cons.1 hf.lines
  have hline : ∀ a ∈ f.scenarios, 0 < a.line := fun a ha => hpos _ (List.mem_map_of_mem ha)
  cases s with
  | none =>
    cases t with
    | none => rfl
    | some b =>
      have hb := hline b (ht b rfl)
      simp only [Option.map_none, Option.getD_none, Option.map_some, Option.getD_some] at h
      omega
  | some a =>
    cases t with
    | none =>
      have ha := hline a (hs a rfl)
      simp only [Option.map_none, Option.getD_none, Option.map_some, Option.getD_some] at h
      omega
    | some b =>
      have hnodup : (f.scenarios.map Scenario.line).Nodup := hrising.imp ne_of_lt
      exact congrArg some (List.inj_on_of_nodup_map hnodup (hs a rfl) (ht b rfl) h)

namespace Place

/-- A place is made of its feature and its scenario. -/
theorem ext_of_parts {p q : Place} (hfeature : p.feature? = q.feature?)
    (hscenario : p.scenario? = q.scenario?) : p = q := by
  cases p <;> cases q <;> simp_all [feature?, scenario?]

/-- Path and line tell the places of a corpus apart. -/
theorem eq_of_mem_all {features : List Feature} (hwell : ∀ f ∈ features, f.WellFormed)
    (hpaths : (features.map Feature.path).Nodup) {p q : Place} (hp : p ∈ all features)
    (hq : q ∈ all features)
    (hpath : (p.feature?.map Feature.path).getD "" = (q.feature?.map Feature.path).getD "")
    (hline : (p.scenario?.map Scenario.line).getD 0 = (q.scenario?.map Scenario.line).getD 0) :
    p = q := by
  obtain ⟨f, hf, hpf, hps⟩ := exists_of_mem_all hp
  obtain ⟨f', hf', hqf, hqs⟩ := exists_of_mem_all hq
  have hfeature : f = f' := by
    refine List.inj_on_of_nodup_map hpaths hf hf' ?_
    simpa [hpf, hqf] using hpath
  subst hfeature
  exact ext_of_parts (hpf.trans hqf.symm) ((hwell f hf).scenario_inj hps hqs hline)

end Place

/-! ## Observations -/

namespace Detect

theorem mem_all_of_standing {features : List Feature} {f : Feature} (hf : f ∈ features) {p : Place}
    (h : Standing f p) : p ∈ Place.all features := by
  refine List.mem_flatMap.2 ⟨f, hf, ?_⟩
  rcases h with rfl | ⟨s, hs, rfl⟩
  · exact List.mem_cons_self ..
  · exact List.mem_cons_of_mem _ (List.mem_map_of_mem (List.mem_of_mem_filter hs))

/-- Observations lie on places of the corpus, unless their type is about the corpus as a whole. -/
theorem mem_all_of_mem_observe {criteria : Criteria} {features : List Feature} {type : WarningType}
    (hcorpus : type ∉ corpusTypes) {o : Observation}
    (ho : o ∈ (Detector.standard type).observe (Survey.ofFeatures criteria features)) :
    o.place ∈ Place.all features := by
  by_cases hflag : type ∈ flagTypes
  · obtain ⟨t, -, hfirst⟩ := flagged_of_mem_observe hflag ho
    exact hfirst.mem_all
  · obtain ⟨f, hf, hstanding⟩ := standing_of_mem_observe hflag hcorpus ho
    exact mem_all_of_standing hf hstanding

theorem place_of_mem_corpus {v : Survey} {type : WarningType} (hcorpus : type ∈ corpusTypes)
    {o : Observation} (ho : o ∈ (Detector.standard type).observe v) : o.place = .corpus := by
  simp only [corpusTypes, List.mem_cons, List.not_mem_nil, or_false] at hcorpus
  rcases hcorpus with rfl | rfl
  · replace ho : o ∈ inconsistentTagging v := ho
    simp only [inconsistentTagging, List.mem_ite_nil_right, List.mem_singleton] at ho
    rw [ho.2]
  · replace ho : o ∈ genericTags v := ho
    simp only [genericTags, List.mem_ite_nil_left, List.mem_flatMap, List.mem_ite_nil_right,
      List.mem_singleton] at ho
    obtain ⟨-, t, -, -, rfl⟩ := ho
    rfl

/-- Detectors leave suggestions to the settings, except the one for misspelled tags. -/
theorem alternatives_of_mem_observe {v : Survey} {type : WarningType} (htypo : type ≠ .tagTypo)
    {o : Observation} (ho : o ∈ (Detector.standard type).observe v) : o.alternatives = none := by
  cases hfamily : type.family with
  | antiPattern =>
    rw [Detector.observe, hfamily] at ho
    obtain ⟨f, -, hof⟩ := List.mem_flatMap.1 ho
    obtain ⟨s, -, hos⟩ := List.mem_flatMap.1 hof
    obtain ⟨message, -, rfl⟩ := List.mem_map.1 hos
    rfl
  | tagQuality =>
    rw [Detector.observe, hfamily] at ho
    cases type with
    | tagTypo => exact absurd rfl htypo
    | missingPriorityTag | missingTypeTag =>
      simp only [tagQuality, missingCategory, List.mem_flatMap, List.mem_ite_nil_left,
        List.mem_singleton] at ho
      obtain ⟨f, -, s, -, -, rfl⟩ := ho
      rfl
    | lowValueTag =>
      simp only [tagQuality, lowValue, lowValueAt, List.mem_flatMap, List.mem_append,
        List.mem_ite_nil_right, List.mem_singleton] at ho
      obtain ⟨f, -, ⟨t, -, -, rfl⟩ | ⟨s, -, t, -, -, rfl⟩⟩ := ho <;> rfl
    | duplicateTag =>
      simp only [tagQuality, duplicateTags, List.mem_flatMap, List.mem_append,
        List.mem_ite_nil_left, List.mem_singleton] at ho
      obtain ⟨f, -, ⟨-, rfl⟩ | ⟨s, -, -, rfl⟩⟩ := ho <;> rfl
    | excessiveTags =>
      simp only [tagQuality, excessiveTags, List.mem_flatMap, List.mem_ite_nil_right,
        List.mem_singleton] at ho
      obtain ⟨f, -, s, -, -, rfl⟩ := ho
      rfl
    | orphanedTag | ambiguousTag =>
      obtain ⟨t, -, rfl⟩ := List.mem_map.1 ho
      rfl
    | inconsistentTagging =>
      simp only [tagQuality, inconsistentTagging, List.mem_ite_nil_right, List.mem_singleton] at ho
      rw [ho.2]
    | tooGenericTag =>
      simp only [tagQuality, genericTags, List.mem_ite_nil_left, List.mem_flatMap,
        List.mem_ite_nil_right, List.mem_singleton] at ho
      obtain ⟨-, t, -, -, rfl⟩ := ho
      rfl
    | _ => simp [tagQuality] at ho

/-- The message on a tag that may be misspelled tells the tag that may be meant. -/
theorem typoMessage_inj {t u t' u' : Tag} (ht : t.IsWord) (ht' : t'.IsWord)
    (h : "'" ++ t.name ++ "' might be a typo of '" ++ u.name ++ "'" =
      "'" ++ t'.name ++ "' might be a typo of '" ++ u'.name ++ "'") : u.name = u'.name := by
  have hword : ∀ {t : Tag}, t.IsWord →
      ∀ c ∈ '\x27' :: t.name.toList ++ ['\x27'], Text.isBlank c = false := by
    intro t ht c hc
    simp only [List.cons_append, List.mem_cons, List.mem_append, List.not_mem_nil, or_false] at hc
    rcases hc with rfl | hc | rfl
    · rfl
    · exact ht c hc
    · rfl
  have hchars : ('\x27' :: t.name.toList ++ ['\x27']) ++ ' ' :: ("might be a typo of '".toList ++
        (u.name.toList ++ ['\x27'])) =
      ('\x27' :: t'.name.toList ++ ['\x27']) ++ ' ' :: ("might be a typo of '".toList ++
        (u'.name.toList ++ ['\x27'])) := by
    simpa using congrArg String.toList h
  -- the first tag ends at the first blank, and the rest of the message is the second tag
  obtain ⟨-, hrest⟩ := Text.append_blank_inj (hword ht) (hword ht') (by decide) hchars
  exact String.toList_inj.1 (List.append_cancel_right (List.append_cancel_left hrest))

/-- A tag that may be misspelled is one of the concordance, and so is what is suggested. -/
theorem exists_of_mem_tagTypos {v : Survey} {o : Observation}
    (ho : o ∈ (Detector.standard .tagTypo).observe v) : ∃ t ∈ v.concordance.tags, ∃ u : Tag,
      o.message = "'" ++ t.name ++ "' might be a typo of '" ++ u.name ++ "'" ∧
        o.alternatives = some [u.name] := by
  obtain ⟨e, he, hoe⟩ := List.mem_flatMap.1 ho
  obtain ⟨u, -, rfl⟩ := List.mem_map.1 hoe
  exact ⟨e.1, Concordance.mem_tags_of_mem_similar he, u, rfl, rfl⟩

/-- What is suggested follows from the message. -/
theorem alternatives_eq_of_message {criteria : Criteria} {features : List Feature}
    (hwell : ∀ f ∈ features, f.WellFormed) {type : WarningType} {o o' : Observation}
    (ho : o ∈ (Detector.standard type).observe (Survey.ofFeatures criteria features))
    (ho' : o' ∈ (Detector.standard type).observe (Survey.ofFeatures criteria features))
    (hmessage : o.message = o'.message) : o.alternatives = o'.alternatives := by
  by_cases htypo : type = .tagTypo
  · subst htypo
    have hword : ∀ t ∈ (Survey.ofFeatures criteria features).concordance.tags, t.IsWord := by
      intro t ht
      obtain ⟨f, hf, ts, hts, hmem⟩ := Concordance.exists_list_of_mem_tags ht
      exact (hwell f hf).tags ts hts t hmem
    obtain ⟨t, ht, u, htext, hsuggest⟩ := exists_of_mem_tagTypos ho
    obtain ⟨t', ht', u', htext', hsuggest'⟩ := exists_of_mem_tagTypos ho'
    rw [htext, htext'] at hmessage
    rw [hsuggest, hsuggest', typoMessage_inj (hword t ht) (hword t' ht') hmessage]
  · rw [alternatives_of_mem_observe htypo ho, alternatives_of_mem_observe htypo ho']

end Detect

/-! ## Findings -/

namespace Outcome

variable {c : Config} {features : List Feature} {failures : List Failure} {paths : List SourcePath}

/-- What findings are sorted by determines them. -/
theorem eq_of_compare_eq (hwell : ∀ f ∈ features, f.WellFormed)
    (hpaths : (features.map Feature.path).Nodup) {g h : Finding}
    (hg : g ∈ (ofFeatures c features failures paths).warnings)
    (hh : h ∈ (ofFeatures c features failures paths).warnings)
    (htie : Finding.compare g h = .eq) : g = h := by
  obtain ⟨hpath, hline, htype, hmessage⟩ := Finding.compare_eq_eq_iff.1 htie
  obtain ⟨-, o, ho, hgo⟩ := mem_warnings_iff.1 hg
  obtain ⟨-, o', ho', hho⟩ := mem_warnings_iff.1 hh
  rw [← WarningType.name_inj htype] at ho' hho
  generalize g.type = type at hgo ho ho' hho
  subst hgo hho
  have hplace : o.place = o'.place := by
    by_cases hcorpus : type ∈ Detect.corpusTypes
    · rw [Detect.place_of_mem_corpus hcorpus ho, Detect.place_of_mem_corpus hcorpus ho']
    · exact Place.eq_of_mem_all hwell hpaths (Detect.mem_all_of_mem_observe hcorpus ho)
        (Detect.mem_all_of_mem_observe hcorpus ho') hpath hline
  have halternatives := Detect.alternatives_eq_of_message hwell ho ho' hmessage
  have hobservation : o = o' := by
    obtain ⟨message, place, alternatives⟩ := o
    obtain ⟨message', place', alternatives'⟩ := o'
    obtain rfl : message = message' := hmessage
    obtain rfl : place = place' := hplace
    obtain rfl : alternatives = alternatives' := halternatives
    rfl
  rw [hobservation]

/-- An audit in which the detectors of a registry run. -/
def ofRegistry (r : Registry Detector) (c : Config) (features : List Feature) (failures : List Failure)
    (paths : List SourcePath) : Outcome :=
  let survey := Survey.ofFeatures c.toCriteria features
  { ofFeatures c features failures paths with
    tagQuality := Detector.runAll c.setting survey r.tagQuality
    antiPatterns := Detector.runAll c.setting survey r.antiPatterns }

/-- **The list of findings is canonical.** If the features of a corpus were read from texts with
different paths, then the findings come in one and the same order, however the detectors of each
family are arranged. The list holds every finding as often as the detectors report it, it is sorted
by path, line, type and message, and findings that agree in these four are equal. Whether a finding
cannot be written does not depend on the arrangement either. -/
theorem warnings_canonical (c : Config) {features : List Feature}
    (hread : ∀ f ∈ features, ∃ (form : Form) (text path : String), f = form.read text path)
    (hpaths : (features.map Feature.path).Nodup) (failures : List Failure)
    (paths : List SourcePath) {r : Registry Detector}
    (htags : r.tagQuality.Perm Registry.standard.tagQuality)
    (hpatterns : r.antiPatterns.Perm Registry.standard.antiPatterns) :
    let standard := ofFeatures c features failures paths
    let o := ofRegistry r c features failures paths
    o.warnings = standard.warnings ∧
      o.warnings.Perm (o.tagQuality ++ o.antiPatterns) ∧
      (o.warnings.Pairwise fun g h => (Finding.compare g h).isLE = true) ∧
      (∀ g ∈ o.warnings, ∀ h ∈ o.warnings, g.path = h.path → g.line.getD 0 = h.line.getD 0 →
        g.type.name = h.type.name → g.message = h.message → g = h) ∧
      quotesTooMuch c o = quotesTooMuch c standard := by
  intro standard o
  have hwell : ∀ f ∈ features, f.WellFormed := by
    intro f hf
    obtain ⟨form, text, path, rfl⟩ := hread f hf
    exact form.wellFormed_read text path
  have hpermTags : standard.tagQuality.Perm o.tagQuality := (htags.flatMap_right _).symm
  have hpermPatterns : standard.antiPatterns.Perm o.antiPatterns := (hpatterns.flatMap_right _).symm
  have hsame : standard.warnings = o.warnings := by
    refine Text.sortBy_eq_of_ties (hpermTags.append hpermPatterns) fun g hg h hh htie => ?_
    exact eq_of_compare_eq hwell hpaths ((Text.sortBy_perm _ _).mem_iff.2 hg)
      ((Text.sortBy_perm _ _).mem_iff.2 hh) htie
  refine ⟨hsame.symm, Text.sortBy_perm _ _, Text.pairwise_sortBy _ _, ?_, ?_⟩
  · rw [← hsame]
    intro g hg h hh hpath hline htype hmessage
    exact eq_of_compare_eq hwell hpaths hg hh
      (Finding.compare_eq_eq_iff.2 ⟨hpath, hline, htype, hmessage⟩)
  · rw [quotesTooMuch, quotesTooMuch, (hpermTags.append hpermPatterns).any_eq]

/-- A corpus of two documents, one of them in the scripted dialect. -/
def shifts : List Feature :=
  [Form.plain.read "@night\nScenario: open\n  Given a till\n\nScenario: close\n  When a bell rings\n"
      "shift.feature",
    Form.scripted.read "Scenario: ping\n  * method GET\n" "ping.feature"]

/-- The standard detectors from the last to the first. -/
def backwards : Registry Detector :=
  ⟨Registry.standard.tagQuality.reverse, Registry.standard.antiPatterns.reverse⟩

theorem warnings_canonical_shifts :
    let standard := ofFeatures .standard shifts [] []
    let o := ofRegistry backwards .standard shifts [] []
    (∀ f ∈ shifts, ∃ (form : Form) (text path : String), f = form.read text path) ∧
      (shifts.map Feature.path).Nodup ∧
      backwards.tagQuality.Perm Registry.standard.tagQuality ∧
      backwards.antiPatterns.Perm Registry.standard.antiPatterns ∧
      backwards.antiPatterns ≠ Registry.standard.antiPatterns ∧
      ((Detector.standard .tooFewSteps).findings Config.standard.setting
        (Survey.ofFeatures Config.standard.toCriteria shifts)).map Finding.line =
          [some 2, some 5, some 1] ∧
      o.warnings = standard.warnings ∧ o.warnings.Perm (o.tagQuality ++ o.antiPatterns) := by
  have hread : ∀ f ∈ shifts, ∃ (form : Form) (text path : String), f = form.read text path := by
    intro f hf
    rcases List.mem_pair.1 hf with rfl | rfl
    · exact ⟨.plain, _, _, rfl⟩
    · exact ⟨.scripted, _, _, rfl⟩
  have hpaths : (shifts.map Feature.path).Nodup := by
    simp [shifts, Form.read, Dialect.read, Dialect.annotate_eq, Document.read_path]
  have htags : backwards.tagQuality.Perm Registry.standard.tagQuality := List.reverse_perm _
  have hpatterns : backwards.antiPatterns.Perm Registry.standard.antiPatterns :=
    List.reverse_perm _
  obtain ⟨hsame, hperm, -⟩ :=
    warnings_canonical .standard hread hpaths [] [] htags hpatterns
  exact ⟨hread, hpaths, htags, hpatterns, by decide, by decide +kernel, hsame, hperm⟩

end Outcome

end FeatureAudit
