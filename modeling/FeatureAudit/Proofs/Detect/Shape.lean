import Mathlib.Data.List.GetD
import Mathlib.Data.List.Induction
import FeatureAudit.Proofs.Detect.Settings
import FeatureAudit.Proofs.Step.Category

/-!
# The order of steps, and what they lack

Two detectors look at the categories of the steps of a scenario. One reports the steps that come too
late, each with the category that should have come after it (`Detector.incorrectOrder_exact`); the
other reports a scenario in which no step has the keyword of a category
(`Detector.missingStep_exact`).

* `Detector.findings_antiPattern`: a detector of anti-patterns reports what is wrong with each
  scenario, one scenario after the other.
* `Detect.outOfOrder_iff`: a step comes too late exactly if one of a greater category came before.
* `Detect.orderFaults_append`: what is said about steps depends on the categories before them alone,
  and on these only as far as they have occurred (`Detect.orderFaults_singleton`).
-/

set_option autoImplicit false

namespace FeatureAudit

/-! ## Findings of anti-patterns -/

/-- The finding of a message about a scenario. -/
def Finding.onScenario (type : WarningType) (setting : WarningSetting) (f : Feature) (s : Scenario)
    (message : String) : Finding :=
  Finding.of type setting ⟨message, .scenario f s, none⟩

/-- The findings of a detector of anti-patterns, scenario by scenario. -/
theorem Detector.findings_antiPattern {type : WarningType} (h : type.family = .antiPattern)
    (setting : WarningType → WarningSetting) (v : Survey) :
    (Detector.standard type).findings setting v =
      if (setting type).enabled then
        v.features.flatMap fun f => f.behaviors.flatMap fun s =>
          (Detect.scenarioFaults v.criteria s type).map (Finding.onScenario type (setting type) f s)
      else [] := by
  have hobserve : (Detector.standard type).observe v = Detect.antiPatterns v type := by
    rw [observe, h]
  cases henabled : (setting type).enabled with
  | false => exact findings_of_disabled henabled
  | true =>
    rw [findings_of_enabled henabled, hobserve, Detect.antiPatterns, List.map_flatMap]
    refine List.flatMap_congr fun f _ => ?_
    rw [Detect.antiPatternsIn, List.map_flatMap]
    refine List.flatMap_congr fun s _ => ?_
    rw [List.map_map]
    rfl

/-! ## Steps that are missing -/

/-- The type of findings about a category that no step has. -/
def StepCategory.missingType : StepCategory → WarningType
  | .setting => .missingGiven
  | .action => .missingWhen
  | .outcome => .missingThen

namespace Detect

/-- Whether a scenario is not made of bullets and no step has the keyword of a category. -/
def Lacks (c : StepCategory) (s : Scenario) : Prop :=
  Step.bulletsOnly s.steps = false ∧ ∀ step ∈ s.steps, ¬ Step.Opens c step

instance (c : StepCategory) (s : Scenario) : Decidable (Lacks c s) :=
  inferInstanceAs (Decidable (_ ∧ _))

/-- A category is missing from the steps if and only if no step opens it: a category that steps take
from the one before stands at that one as well. -/
theorem missingStep_eq (c : StepCategory) (s : Scenario) :
    missingStep c s =
      if Lacks c s then ["Scenario is missing a " ++ c.keyword ++ " step"] else [] := by
  have hcontains : (Step.categories s.steps).contains (some c) = true ↔
      ∃ step ∈ s.steps, Step.Opens c step := by
    rw [List.contains_iff_mem, Step.mem_categories_iff]
  have hlacks : ¬ (Step.bulletsOnly s.steps ||
      (Step.categories s.steps).contains (some c)) = true ↔ Lacks c s := by
    rw [Bool.or_eq_true, hcontains, not_or, Lacks, Bool.not_eq_true]
    push Not
    rfl
  rw [missingStep]
  by_cases h : Lacks c s
  · rw [if_pos h, if_neg (hlacks.2 h)]
  · rw [if_neg h, if_pos (not_not.1 (mt hlacks.1 h))]

theorem scenarioFaults_missingType (criteria : Criteria) (s : Scenario) (c : StepCategory) :
    scenarioFaults criteria s c.missingType = missingStep c s := by
  cases c <;> rfl

end Detect

namespace Detector

/-- **Steps have the category of the nearest primary keyword, and a category is missing if no step
has its keyword.** A step has a category exactly if a step up to there opens it and all steps after
that one are continuations; it has none if there is no such step. So a category is reported as
missing once for each scenario or outline, bullets apart, in which no step has its primary keyword
itself, and for no others. -/
theorem missingStep_exact (setting : WarningType → WarningSetting) (v : Survey) :
    (∀ (steps : List String) (i : Nat) (c : StepCategory),
      (Step.categories steps)[i]? = some (some c) ↔ ∃ j, Step.Governs steps j i c) ∧
      (∀ (steps : List String) (i : Nat), (Step.categories steps)[i]? = some none ↔
        i < steps.length ∧ ∀ j c, ¬ Step.Governs steps j i c) ∧
      ∀ c : StepCategory, (Detector.standard c.missingType).findings setting v =
        if (setting c.missingType).enabled then
          v.features.flatMap fun f => f.behaviors.flatMap fun s =>
            if Detect.Lacks c s then
              [Finding.onScenario c.missingType (setting c.missingType) f s
                ("Scenario is missing a " ++ c.keyword ++ " step")]
            else []
        else [] := by
  refine ⟨fun _ _ _ => Step.getElem?_categories_eq_some_iff,
    fun _ _ => Step.getElem?_categories_eq_none_iff, fun c => ?_⟩
  have hfamily : c.missingType.family = .antiPattern := by cases c <;> rfl
  rw [findings_antiPattern hfamily]
  simp only [Detect.scenarioFaults_missingType, Detect.missingStep_eq, apply_ite (List.map _),
    List.map_cons, List.map_nil]

end Detector

/-! ## Steps that come too late -/

/-- The rank of a category in the order of a scenario. -/
def StepCategory.rank : StepCategory → Nat
  | .setting => 0
  | .action => 1
  | .outcome => 2

namespace Detect

/-- Whether the step at a place comes too late: it is an action and an outcome came before, or it is
a setting and an action or an outcome came before. -/
def OutOfOrder (categories : List (Option StepCategory)) (i : Nat) : Prop :=
  categories[i]? = some (some .action) ∧ some .outcome ∈ categories.take i ∨
    categories[i]? = some (some .setting) ∧
      (some .action ∈ categories.take i ∨ some .outcome ∈ categories.take i)

instance (categories : List (Option StepCategory)) (i : Nat) :
    Decidable (OutOfOrder categories i) :=
  inferInstanceAs (Decidable (_ ∨ _))

/-- Whether categories come in the order of a scenario, steps without category apart. -/
def InOrder (categories : List (Option StepCategory)) : Prop :=
  (categories.filterMap id).Pairwise fun c d => c.rank ≤ d.rank

/-- The greatest category in front of a place where a step comes too late. -/
def latest (categories : List (Option StepCategory)) (i : Nat) : StepCategory :=
  if some .outcome ∈ categories.take i then .outcome else .action

/-- What is said about a step that comes too late, with the category at its place. -/
def lateText (categories : List (Option StepCategory)) (i : Nat) (step : String) : String :=
  ((categories[i]?.join.map StepCategory.keyword).getD "") ++ " step after " ++
    (latest categories i).keyword ++ " step: \"" ++ step ++ "\""

/-- The places of the steps that come too late. -/
def latePlaces (steps : List String) : List Nat :=
  (List.range steps.length).filter fun i => OutOfOrder (Step.categories steps) i

theorem outOfOrder_iff {categories : List (Option StepCategory)} {i : Nat} :
    OutOfOrder categories i ↔ ∃ c d : StepCategory, categories[i]? = some (some c) ∧
      some d ∈ categories.take i ∧ c.rank < d.rank := by
  constructor
  · rintro (⟨hi, houtcome⟩ | ⟨hi, haction | houtcome⟩)
    · exact ⟨.action, .outcome, hi, houtcome, by decide⟩
    · exact ⟨.setting, .action, hi, haction, by decide⟩
    · exact ⟨.setting, .outcome, hi, houtcome, by decide⟩
  · rintro ⟨c, d, hi, hbefore, hrank⟩
    cases c with
    | outcome => cases d <;> simp [StepCategory.rank] at hrank
    | action =>
      cases d with
      | outcome => exact Or.inl ⟨hi, hbefore⟩
      | setting | action => simp [StepCategory.rank] at hrank
    | setting =>
      cases d with
      | setting => simp [StepCategory.rank] at hrank
      | action => exact Or.inr ⟨hi, Or.inl hbefore⟩
      | outcome => exact Or.inr ⟨hi, Or.inr hbefore⟩

theorem OutOfOrder.lt_length {categories : List (Option StepCategory)} {i : Nat}
    (h : OutOfOrder categories i) : i < categories.length := by
  obtain ⟨c, -, hi, -⟩ := outOfOrder_iff.1 h
  exact (List.getElem?_eq_some_iff.1 hi).1

/-- Categories are in order if and only if no step comes too late. -/
theorem inOrder_iff {categories : List (Option StepCategory)} :
    InOrder categories ↔ ∀ i, ¬ OutOfOrder categories i := by
  rw [InOrder, List.pairwise_filterMap, List.pairwise_iff_getElem]
  constructor
  · intro h i hlate
    obtain ⟨c, d, hi, hbefore, hrank⟩ := outOfOrder_iff.1 hlate
    obtain ⟨hlt, hc⟩ := List.getElem?_eq_some_iff.1 hi
    obtain ⟨j, hj, hd⟩ := List.mem_take_iff_getElem.1 hbefore
    have hle := h j i (by omega) hlt (by omega) d hd c hc
    omega
  · intro h j i hj hi hlt d hd c hc
    by_contra hrank
    refine h i (outOfOrder_iff.2 ⟨c, d, ?_, ?_, by omega⟩)
    · rw [List.getElem?_eq_getElem hi]
      exact congrArg some hc
    · exact List.mem_take_iff_getElem.2 ⟨j, by omega, hd⟩

theorem mem_latePlaces_iff {steps : List String} {i : Nat} :
    i ∈ latePlaces steps ↔ OutOfOrder (Step.categories steps) i := by
  rw [latePlaces, List.mem_filter, List.mem_range, decide_eq_true_eq, and_iff_right_iff_imp]
  intro hlate
  rw [← Step.length_categories]
  exact hlate.lt_length

example : latePlaces ["When a", "Then b", "And c", "When d", "And e", "Given f"] = [3, 4, 5] := by
  decide +kernel

/-! ### The search for them -/

/-- What is said about steps behind others depends on the categories of these. -/
theorem orderFaults_append (seen : List StepCategory)
    (before after : List (String × Option StepCategory)) :
    orderFaults seen (before ++ after) = orderFaults seen before ++
      orderFaults ((before.filterMap Prod.snd).reverse ++ seen) after := by
  induction before generalizing seen with
  | nil => rfl
  | cons p before ih =>
    obtain ⟨step, category⟩ := p
    cases category with
    | none => exact ih seen
    | some c =>
      have hseen : (((step, some c) :: before).filterMap Prod.snd).reverse ++ seen =
          (before.filterMap Prod.snd).reverse ++ c :: seen := by simp
      rw [List.cons_append, orderFaults, orderFaults, ih, List.append_assoc, hseen]

section Append

variable {before : List (Option StepCategory)} {i : Nat} (h : i < before.length)
include h

/-- Later steps change nothing about those before them. -/
theorem outOfOrder_append (after : List (Option StepCategory)) :
    OutOfOrder (before ++ after) i ↔ OutOfOrder before i := by
  rw [OutOfOrder, List.getElem?_append_left h, List.take_append_of_le_length (Nat.le_of_lt h),
    OutOfOrder]

theorem lateText_append (after : List (Option StepCategory)) (step : String) :
    lateText (before ++ after) i step = lateText before i step := by
  rw [lateText, latest, List.getElem?_append_left h,
    List.take_append_of_le_length (Nat.le_of_lt h), lateText, latest]

end Append

theorem outOfOrder_concat {before : List (Option StepCategory)} {category : Option StepCategory} :
    OutOfOrder (before ++ [category]) before.length ↔
      category = some .action ∧ some .outcome ∈ before ∨
        category = some .setting ∧ (some .action ∈ before ∨ some .outcome ∈ before) := by
  simp [OutOfOrder]

/-- What is said about one step, if the categories that were seen are those of the steps before. -/
theorem orderFaults_singleton {seen : List StepCategory} {before : List (Option StepCategory)}
    (hseen : ∀ c, c ∈ seen ↔ some c ∈ before) (step : String) (category : Option StepCategory) :
    orderFaults seen [(step, category)] =
      if OutOfOrder (before ++ [category]) before.length then
        [lateText (before ++ [category]) before.length step]
      else [] := by
  have hcategory : (before ++ [category])[before.length]?.join = category := by simp
  have hlatest : latest (before ++ [category]) before.length =
      if some .outcome ∈ before then .outcome else .action := by simp [latest]
  rw [lateText, hcategory, hlatest]
  simp only [outOfOrder_concat]
  cases category with
  | none => simp [orderFaults]
  | some c =>
    cases c with
    | outcome => simp [orderFaults, orderFault?]
    | action =>
      by_cases houtcome : some .outcome ∈ before <;>
        simp [orderFaults, orderFault?, hseen, houtcome, StepCategory.keyword]
    | setting =>
      by_cases houtcome : some .outcome ∈ before <;> by_cases haction : some .action ∈ before <;>
        simp [orderFaults, orderFault?, hseen, houtcome, haction, StepCategory.keyword]

/-- What is said about steps with their categories: one message for each that comes too late. -/
theorem orderFaults_eq (steps : List (String × Option StepCategory)) :
    orderFaults [] steps =
      ((List.range steps.length).filter fun i => OutOfOrder (steps.map Prod.snd) i).map fun i =>
        lateText (steps.map Prod.snd) i ((steps.map Prod.fst).getD i "") := by
  -- from the last step, which has all others before it
  induction steps using List.reverseRecOn with
  | nil => rfl
  | append_singleton steps p ih =>
    obtain ⟨step, category⟩ := p
    have hseen : ∀ c, c ∈ (steps.filterMap Prod.snd).reverse ++ [] ↔
        some c ∈ steps.map Prod.snd := by
      intro c
      simp
    have hlength : (steps.map Prod.snd).length = steps.length := List.length_map _
    have hlate : ∀ i ∈ List.range steps.length,
        decide (OutOfOrder (steps.map Prod.snd ++ [category]) i) =
          decide (OutOfOrder (steps.map Prod.snd) i) := by
      intro i hi
      have hlt : i < (steps.map Prod.snd).length := by rwa [hlength, ← List.mem_range]
      exact decide_eq_decide.2 (outOfOrder_append hlt _)
    have htext : ∀ i ∈ (List.range steps.length).filter fun i => OutOfOrder (steps.map Prod.snd) i,
        lateText (steps.map Prod.snd ++ [category]) i ((steps.map Prod.fst ++ [step]).getD i "") =
          lateText (steps.map Prod.snd) i ((steps.map Prod.fst).getD i "") := by
      intro i hi
      have hlt : i < (steps.map Prod.snd).length := by
        rw [hlength, ← List.mem_range]
        exact List.mem_of_mem_filter hi
      rw [lateText_append hlt, List.getD_append _ _ _ _ (by simpa using hlt)]
    rw [orderFaults_append, ih, orderFaults_singleton hseen, List.length_append,
      List.length_singleton, List.range_succ, List.filter_append, List.map_append, List.map_append,
      List.map_append, List.map_singleton, List.map_singleton, List.filter_congr hlate,
      List.map_congr_left htext, hlength]
    by_cases hnew : OutOfOrder (steps.map Prod.snd ++ [category]) steps.length <;> simp [hnew]

/-- What is said about the order of the steps of a scenario. -/
theorem incorrectOrder_eq (s : Scenario) : incorrectOrder s =
    (latePlaces s.steps).map fun i =>
      lateText (Step.categories s.steps) i (s.steps.getD i "") := by
  have hlength : s.steps.length = (Step.categories s.steps).length :=
    (Step.length_categories s.steps).symm
  rw [incorrectOrder, orderFaults_eq, List.map_fst_zip (Nat.le_of_eq hlength),
    List.map_snd_zip (Nat.le_of_eq hlength.symm), List.length_zip, ← hlength, Nat.min_self,
    latePlaces]

theorem incorrectOrder_eq_nil_iff {s : Scenario} :
    incorrectOrder s = [] ↔ InOrder (Step.categories s.steps) := by
  rw [incorrectOrder_eq, List.map_eq_nil_iff, List.eq_nil_iff_forall_not_mem, inOrder_iff]
  simp only [mem_latePlaces_iff]

end Detect

namespace Detector

/-- **Steps that come too late are reported one by one.** A step is reported if it is an action and
an outcome came before, or a setting and an action or an outcome came before; each of these steps has
one finding, in the order of the steps, that quotes it. Nothing is said about a scenario exactly if
its categories come in order, steps without category apart. -/
theorem incorrectOrder_exact (setting : WarningType → WarningSetting) (v : Survey) :
    (Detector.standard .incorrectStepOrder).findings setting v =
        (if (setting .incorrectStepOrder).enabled then
          v.features.flatMap fun f => f.behaviors.flatMap fun s =>
            (Detect.latePlaces s.steps).map fun i =>
              Finding.onScenario .incorrectStepOrder (setting .incorrectStepOrder) f s
                (Detect.lateText (Step.categories s.steps) i (s.steps.getD i ""))
        else []) ∧
      (∀ steps : List String, (Detect.latePlaces steps).Pairwise (fun i j => i < j) ∧
        ∀ i, i ∈ Detect.latePlaces steps ↔ Detect.OutOfOrder (Step.categories steps) i) ∧
      ∀ s : Scenario, Detect.incorrectOrder s = [] ↔ Detect.InOrder (Step.categories s.steps) := by
  refine ⟨?_, fun steps => ⟨List.pairwise_lt_range.filter _, fun i => Detect.mem_latePlaces_iff⟩,
    fun s => Detect.incorrectOrder_eq_nil_iff⟩
  have hfaults : ∀ s : Scenario, Detect.scenarioFaults v.criteria s .incorrectStepOrder =
      Detect.incorrectOrder s := fun _ => rfl
  rw [findings_antiPattern rfl]
  simp only [hfaults, Detect.incorrectOrder_eq, List.map_map]
  rfl

end Detector

end FeatureAudit
