import FeatureAudit.Config.Coercion
import FeatureAudit.Pattern.Engine
import FeatureAudit.Proofs.Corpus.Schedule
import FeatureAudit.Proofs.Traversal
import FeatureAudit.Run

/-!
# What the status of a run tells

The status of an outcome tells how much of the corpus was read and how much of it failed, but only
as long as the choice by tags leaves one of the features that were read. Where it leaves none of
them, the outcome is the one of a corpus in which there was nothing to read (`run_status`).

* `Request.run_eq_ok_iff`: a run gives an outcome exactly if each of its stages gives a result.
* `Request.choose_eq_ok`: the features that are chosen are those of the load that are kept.
* `Outcome.statusOf_tells`: the status tells about the features it is given.
-/

set_option autoImplicit false

namespace FeatureAudit

/-! ## Stages of a run -/

namespace Request

variable {r : Request} {t : FileTree}

/-- A run gives an outcome exactly if each of its stages gives a result. -/
theorem run_eq_ok_iff [Config.FieldReader] [PatternEngine] {o : Outcome} {notices : List Notice} :
    r.run t = .ok (o, notices) ↔ ∃ c before l features after,
      r.settledConfig t = .ok (c, before) ∧ r.load t = .ok l ∧
        r.choose l = .ok (features, after) ∧
        Outcome.ofFeatures? c features l.failures l.paths = some o ∧
        notices = before ++ after ++ [.finished o.summary] := by
  unfold run
  constructor
  · intro h
    obtain ⟨⟨c, before⟩, hconfig, h⟩ := bind_eq_ok h
    obtain ⟨l, hload, h⟩ := bind_eq_ok h
    obtain ⟨⟨features, after⟩, hchoose, h⟩ := bind_eq_ok h
    cases houtcome : Outcome.ofFeatures? c features l.failures l.paths with
    | none => simp [houtcome] at h
    | some o' =>
      simp only [houtcome] at h
      obtain ⟨rfl, rfl⟩ := Prod.mk.inj (Except.ok.inj h)
      exact ⟨c, before, l, features, after, mapError_eq_ok hconfig, mapError_eq_ok hload,
        mapError_eq_ok hchoose, houtcome, rfl⟩
  · rintro ⟨c, before, l, features, after, hconfig, hload, hchoose, houtcome, rfl⟩
    simp [hconfig, hload, hchoose, houtcome, Except.mapError, bind, Except.bind, pure, Except.pure]

/-- The features that are chosen are those of the load that are kept. -/
theorem choose_eq_ok {l : Load} {features : List Feature} {notices : List Notice}
    (h : r.choose l = .ok (features, notices)) :
    ∃ s, Selection.ofRaws r.wanted r.unwanted = .ok s ∧ features = l.features.filter s.keeps := by
  rw [choose] at h
  split at h
  -- without names nothing is filtered, which is what a selection of no tags does
  · rename_i hnone
    obtain ⟨hwanted, hunwanted⟩ : r.wanted = [] ∧ r.unwanted = [] := by simpa using hnone
    have hfeatures : l.features = features := by simpa using (Prod.mk.inj (Except.ok.inj h)).1
    refine ⟨⟨[], []⟩, by rw [hwanted, hunwanted]; rfl, ?_⟩
    rw [← hfeatures]
    exact (List.filter_eq_self.2 fun f _ => rfl).symm
  · cases hs : Selection.ofRaws r.wanted r.unwanted with
    | error fault => simp [hs, Except.map] at h
    | ok s =>
      simp only [hs, Except.map, Except.ok.injEq, Prod.mk.injEq] at h
      exact ⟨s, rfl, h.1.symm⟩

end Request

/-! ## The status -/

/-- Whether a status tells what became of a corpus: nothing was read, something was read and
something failed, or something was read and nothing failed. -/
structure Status.Tells (status : Status) (features : List Feature) (failures : List Failure) :
    Prop where
  nothing : status = .nothing ↔ features = []
  incomplete : status = .incomplete ↔ features ≠ [] ∧ failures ≠ []
  complete : status = .complete ↔ features ≠ [] ∧ failures = []

namespace Outcome

/-- The status tells what became of the features it is given. -/
theorem statusOf_tells (features : List Feature) (failures : List Failure) :
    (statusOf features failures).Tells features failures := by
  cases features with
  | nil => constructor <;> simp [statusOf]
  | cons f features => cases failures <;> constructor <;> simp [statusOf]

/-- It tells about other features exactly if both have a feature or neither has one. -/
theorem statusOf_tells_iff {features features' : List Feature} {failures : List Failure} :
    (statusOf features failures).Tells features' failures ↔ (features = [] ↔ features' = []) := by
  have htells := statusOf_tells features failures
  constructor
  · intro h
    exact htells.nothing.symm.trans h.nothing
  · intro hsame
    exact
      { nothing := htells.nothing.trans hsame
        incomplete := htells.incomplete.trans (and_congr (not_congr hsame) Iff.rfl)
        complete := htells.complete.trans (and_congr (not_congr hsame) Iff.rfl) }

theorem ofFeatures?_eq_some {c : Config} {features : List Feature} {failures : List Failure}
    {paths : List SourcePath} {o : Outcome} (h : ofFeatures? c features failures paths = some o) :
    o = ofFeatures c features failures paths := by
  simp only [ofFeatures?] at h
  split at h
  · cases h
  · exact (Option.some_inj.1 h).symm

end Outcome

namespace Request

/-- **The status tells about the load exactly if the choice leaves some of it.** An outcome has the
features of the load that are kept, and all its failures. Its status tells what became of the load
if and only if nothing was read or something that was read is kept; otherwise it says that there
was nothing to audit. -/
theorem run_status [Config.FieldReader] [PatternEngine] {r : Request} {t : FileTree} {o : Outcome}
    {notices : List Notice} (h : r.run t = .ok (o, notices)) :
    ∃ l s, r.load t = .ok l ∧ Selection.ofRaws r.wanted r.unwanted = .ok s ∧
      o.features = l.features.filter s.keeps ∧ o.failures = l.failures ∧
      (o.status.Tells l.features l.failures ↔
        l.features = [] ∨ ∃ f ∈ l.features, s.keeps f = true) ∧
      ((∀ f ∈ l.features, s.keeps f = false) → o.status = .nothing) := by
  obtain ⟨c, before, l, features, after, -, hload, hchoose, houtcome, -⟩ := run_eq_ok_iff.1 h
  obtain ⟨s, hselection, rfl⟩ := choose_eq_ok hchoose
  obtain rfl := Outcome.ofFeatures?_eq_some houtcome
  refine ⟨l, s, hload, hselection, rfl, rfl, Outcome.statusOf_tells_iff.trans ?_, fun hnone => ?_⟩
  · by_cases hread : l.features = []
    · simp [hread]
    · simp [hread, List.filter_eq_nil_iff]
  · have hkept : l.features.filter s.keeps = [] :=
      List.filter_eq_nil_iff.2 fun f hf => by simp [hnone f hf]
    exact (Outcome.statusOf_tells _ _).nothing.2 hkept

/-! ## One document that can be read -/

/-- Loading one document that can be read gives its feature. -/
theorem load_eq_ok {r : Request} {t : FileTree} {p : SourcePath} {f : Feature}
    (hpaths : r.paths = [p]) (hfew : 1 ≤ r.threshold)
    (hexpand : Discovery.expand t Discovery.standardExclusions p = .ok [p])
    (hparse : Load.guarded (Load.parseFile t r.detect) p = .ok (.ok f)) :
    r.load t = .ok ⟨[p], [f], [], false⟩ := by
  have hfound : Discovery.paths t Discovery.standardExclusions r.paths = .ok [p] := by
    rw [hpaths, Discovery.paths, mapM_eq_ok (g := fun p => [p]) (by simpa using hexpand)]
    simp only [Except.map, List.map_cons, List.map_nil, List.flatten_cons, List.flatten_nil,
      List.append_nil, Text.sortBy, List.mergeSort_singleton]
    rfl
  have hsequential : Load.sequential (Load.parseFile t r.detect) [p] =
      .ok (Load.ofResults [p] false [.ok f]) :=
    Load.sequential_eq_ok (g := fun _ => .ok f) (by simpa using hparse)
  have hthreshold : ¬ r.threshold < ([p] : List SourcePath).length := by simpa using hfew
  rw [load, Load.ofPaths, hfound, Except.bind, Load.run, if_neg hthreshold, hsequential]
  simp only [Load.ofResults, Load.sortedFeatures, Load.sortedFailures, List.filterMap_cons,
    List.filterMap_nil, Load.feature?, Load.failure?, Text.sortBy, List.mergeSort_singleton,
    List.mergeSort_nil]

/-- A run with a configuration whose thresholds can be written gives an outcome if the load and the
choice give features. -/
theorem exists_run_eq_ok [Config.FieldReader] [PatternEngine] {r : Request} {t : FileTree}
    {c : Config} {l : Load} {features : List Feature} {after : List Notice}
    (hconfig : r.config = some c)
    (hshort : ∀ threshold, (c.threshold threshold).natAbs < Decimal.digitBound)
    (hload : r.load t = .ok l) (hchoose : r.choose l = .ok (features, after)) :
    ∃ notices, r.run t = .ok (Outcome.ofFeatures c features l.failures l.paths, notices) := by
  have hsettled : r.settledConfig t = .ok (c, []) := by rw [settledConfig, hconfig]
  exact ⟨_, run_eq_ok_iff.2 ⟨c, [], l, features, after, hsettled, hload, hchoose,
    Outcome.ofFeatures?_eq_some_of_lt hshort features l.failures l.paths, rfl⟩⟩

/-- A request for the features of a document that have one of some tags. -/
def pick (wanted : List String) : Request where
  paths := [.ofText "a.feature"]
  config := some .standard
  configPath := none
  root := none
  wanted := wanted.map some
  unwanted := []
  threshold := Load.standardThreshold
  workers := none
  detect := true

/-- What is loaded for it. -/
def picked : Load := ⟨[.ofText "a.feature"], [⟨"a.feature", "A", "", [], [], []⟩], [], false⟩

theorem load_pick (wanted : List String) : (pick wanted).load Load.shelf = .ok picked :=
  load_eq_ok rfl (by simp [pick, Load.standardThreshold]) rfl rfl

theorem run_pick {wanted : List String} {features : List Feature} {after : List Notice}
    (hchoose : (pick wanted).choose picked = .ok (features, after)) :
    ∃ notices, (pick wanted).run Load.shelf =
      .ok (Outcome.ofFeatures .standard features [] picked.paths, notices) :=
  exists_run_eq_ok rfl Outcome.natAbs_threshold_standard_lt (load_pick wanted) hchoose

theorem run_status_pick : ∃ o notices, (pick []).run Load.shelf = .ok (o, notices) ∧
    ∃ l, (pick []).load Load.shelf = .ok l ∧ l.features ≠ [] ∧ l.failures = [] ∧
      o.status.Tells l.features l.failures := by
  obtain ⟨notices, hrun⟩ := @run_pick [] picked.features [] rfl
  obtain ⟨l, s, hload, hselection, -, -, htells, -⟩ := run_status hrun
  obtain rfl : picked = l := Except.ok.inj ((load_pick []).symm.trans hload)
  obtain rfl : ⟨[], []⟩ = s := Except.ok.inj hselection
  exact ⟨_, notices, hrun, _, hload, by decide, rfl,
    htells.2 (Or.inr ⟨_, List.mem_cons_self .., rfl⟩)⟩

/-- A document was read and none failed, but a tag that it does not have is asked for: the outcome
says that no document was read. -/
theorem run_pick_nothing : ∃ o notices, (pick ["@x"]).run Load.shelf = .ok (o, notices) ∧
    (pick ["@x"]).load Load.shelf = .ok picked ∧ picked.features ≠ [] ∧ picked.failures = [] ∧
      o.status = .nothing ∧ o.summary = "Nothing to analyze: no feature files were parsed" ∧
      ¬ o.status.Tells picked.features picked.failures := by
  obtain ⟨notices, hrun⟩ := @run_pick ["@x"] [] [.filtered 0 1] rfl
  refine ⟨_, notices, hrun, load_pick ["@x"], by decide, rfl, rfl, rfl, fun htells => ?_⟩
  exact absurd (htells.nothing.1 rfl) (by decide)

end Request

end FeatureAudit
