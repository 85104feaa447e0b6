import Mathlib.Data.List.Basic
import FeatureAudit.Step

/-!
# Where the category of a step comes from

A step has the category of the nearest step in front of it, or its own, that has a primary keyword,
as long as nothing but continuations stand between (`getElem?_categories_eq_some_iff`). A step
without any keyword breaks the line: from there on steps have no category until the next primary
keyword (`getElem?_categories_eq_none_iff`). Since every primary keyword gives its own step the
category, continuations never add a category to a scenario (`mem_categories_iff`).
-/

set_option autoImplicit false

namespace FeatureAudit.Step

/-- Whether a step has the primary keyword of a category, in any case. -/
def Opens (c : StepCategory) (step : String) : Prop :=
  Text.lower (keyword step) = Text.lower c.keyword

/-- Whether a step goes on with the category of the step before. -/
def Continues (step : String) : Prop := Text.lower (keyword step) ∈ ["and", "but", "*"]

instance (c : StepCategory) (step : String) : Decidable (Opens c step) :=
  inferInstanceAs (Decidable (_ = _))

/-- Whether the step at `j` opens a category that all steps up to `i` go on with. -/
structure Governs (steps : List String) (j i : Nat) (c : StepCategory) : Prop where
  le : j ≤ i
  opens : ∃ step, steps[j]? = some step ∧ Opens c step
  continues : ∀ k, j < k → k ≤ i → ∃ step, steps[k]? = some step ∧ Continues step

/-! ## Roles -/

theorem role?_eq_primary_iff {word : String} {c : StepCategory} :
    role? word = some (.primary c) ↔ word = Text.lower c.keyword := by
  have hkeywords : Text.lower StepCategory.setting.keyword = "given" ∧
      Text.lower StepCategory.action.keyword = "when" ∧
      Text.lower StepCategory.outcome.keyword = "then" := by decide
  obtain ⟨hsetting, haction, houtcome⟩ := hkeywords
  cases c <;> grind [role?]

theorem role?_eq_continuation_iff {word : String} :
    role? word = some .continuation ↔ word ∈ ["and", "but", "*"] := by
  grind [role?]

/-- The role of a step is that of its keyword. -/
theorem roleOf_eq (step : String) : roleOf step = role? (Text.lower (keyword step)) := by
  have hempty : role? (Text.lower "") = none := by decide
  rw [keyword]
  split
  · rfl
  · rename_i hnone
    rw [hempty]
    simpa using hnone

theorem roleOf_eq_primary_iff {step : String} {c : StepCategory} :
    roleOf step = some (.primary c) ↔ Opens c step := by
  rw [roleOf_eq, role?_eq_primary_iff, Opens]

theorem roleOf_eq_continuation_iff {step : String} :
    roleOf step = some .continuation ↔ Continues step := by
  rw [roleOf_eq, role?_eq_continuation_iff, Continues]

/-- One step opens a category or goes on with the category before it. -/
theorem nextCategory_eq_some_iff {current : Option StepCategory} {step : String}
    {c : StepCategory} :
    nextCategory current step = some c ↔ Opens c step ∨ Continues step ∧ current = some c := by
  rw [← roleOf_eq_primary_iff, ← roleOf_eq_continuation_iff, nextCategory]
  cases roleOf step with
  | none => simp
  | some role => cases role <;> simp

/-! ## All steps -/

@[simp] theorem length_categories (steps : List String) :
    (categories steps).length = steps.length := by
  have hfrom : ∀ current, (categoriesFrom current steps).length = steps.length := by
    induction steps with
    | nil => intro current; rfl
    | cons s ss ih =>
      intro current
      rw [categoriesFrom, List.length_cons, List.length_cons, ih]
  exact hfrom none

/-- The category at a place is that of all steps up to there. -/
theorem getElem?_categoriesFrom (current : Option StepCategory) (steps : List String) (i : Nat) :
    (categoriesFrom current steps)[i]? =
      steps[i]?.map fun step => nextCategory ((steps.take i).foldl nextCategory current) step := by
  induction steps generalizing current i with
  | nil => rfl
  | cons s ss ih =>
    cases i with
    | zero => rfl
    | succ i =>
      rw [categoriesFrom, List.getElem?_cons_succ, List.getElem?_cons_succ, ih, List.take_succ_cons,
        List.foldl_cons]

theorem getElem?_categories_zero (steps : List String) :
    (categories steps)[0]? = steps[0]?.map (nextCategory none) :=
  getElem?_categoriesFrom none steps 0

theorem getElem?_categories_succ (steps : List String) (i : Nat) :
    (categories steps)[i + 1]? =
      steps[i + 1]?.map (nextCategory (categories steps)[i]?.join) := by
  rw [categories, getElem?_categoriesFrom, getElem?_categoriesFrom]
  cases hnext : steps[i + 1]? with
  | none => rw [Option.map_none, Option.map_none]
  | some next =>
    have hlt : i < steps.length := by
      have hnextlt := (List.getElem?_eq_some_iff.1 hnext).1
      omega
    rw [List.take_add_one, List.getElem?_eq_getElem hlt, Option.toList_some, List.foldl_append,
      List.foldl_cons, List.foldl_nil, Option.map_some, Option.map_some, Option.map_some,
      Option.join_some]

/-! ## The step that a category comes from -/

section Governs

variable {steps : List String} {i j : Nat} {c : StepCategory}

theorem governs_self_iff : Governs steps j j c ↔ ∃ step, steps[j]? = some step ∧ Opens c step :=
  ⟨Governs.opens, fun h => ⟨(Nat.le_refl _), h, fun k hlt hle => absurd hlt (by omega)⟩⟩

theorem Governs.succ (h : Governs steps j i c) {step : String} (hstep : steps[i + 1]? = some step)
    (hcontinues : Continues step) : Governs steps j (i + 1) c where
  le := by have := h.le; omega
  opens := h.opens
  continues k hlt hle := by
    rcases Nat.lt_or_eq_of_le hle with hbefore | rfl
    · exact h.continues k hlt (by omega)
    · exact ⟨step, hstep, hcontinues⟩

theorem Governs.pred (h : Governs steps j (i + 1) c) (hle : j ≤ i) : Governs steps j i c :=
  ⟨hle, h.opens, fun k hlt hk => h.continues k hlt (by omega)⟩

/-- A step has the category of the last step with a primary keyword, if nothing but continuations
came after it. -/
theorem getElem?_categories_eq_some_iff :
    (categories steps)[i]? = some (some c) ↔ ∃ j, Governs steps j i c := by
  induction i with
  | zero =>
    simp only [getElem?_categories_zero, Option.map_eq_some_iff, nextCategory_eq_some_iff,
      reduceCtorEq, and_false, or_false]
    constructor
    · exact fun h => ⟨0, governs_self_iff.2 h⟩
    · rintro ⟨j, hj⟩
      obtain rfl : j = 0 := Nat.le_zero.1 hj.le
      exact hj.opens
  | succ i ih =>
    have hcurrent : (categories steps)[i]?.join = some c ↔ ∃ j, Governs steps j i c := by
      rw [← ih, Option.join_eq_some_iff]
    simp only [getElem?_categories_succ, Option.map_eq_some_iff, nextCategory_eq_some_iff, hcurrent]
    constructor
    · rintro ⟨step, hstep, hopens | ⟨hcontinues, j, hj⟩⟩
      · exact ⟨i + 1, governs_self_iff.2 ⟨step, hstep, hopens⟩⟩
      · exact ⟨j, hj.succ hstep hcontinues⟩
    · rintro ⟨j, hj⟩
      rcases Nat.lt_or_eq_of_le hj.le with hlt | rfl
      · obtain ⟨step, hstep, hcontinues⟩ := hj.continues (i + 1) hlt (Nat.le_refl _)
        exact ⟨step, hstep, Or.inr ⟨hcontinues, j, hj.pred (by omega)⟩⟩
      · obtain ⟨step, hstep, hopens⟩ := hj.opens
        exact ⟨step, hstep, Or.inl hopens⟩

theorem getElem?_categories_eq_none_iff :
    (categories steps)[i]? = some none ↔ i < steps.length ∧ ∀ j c, ¬ Governs steps j i c := by
  constructor
  · intro hnone
    have hlt : i < steps.length := by
      rw [← length_categories]
      exact (List.getElem?_eq_some_iff.1 hnone).1
    refine ⟨hlt, fun j c hgoverns => ?_⟩
    have hsome := getElem?_categories_eq_some_iff.2 ⟨j, hgoverns⟩
    rw [hnone] at hsome
    cases hsome
  · rintro ⟨hlt, hgoverns⟩
    have hlength : i < (categories steps).length := by rwa [length_categories]
    cases hcategory : (categories steps)[i] with
    | none => rw [List.getElem?_eq_getElem hlength, hcategory]
    | some c =>
      have hsome : (categories steps)[i]? = some (some c) := by
        rw [List.getElem?_eq_getElem hlength, hcategory]
      obtain ⟨j, hj⟩ := getElem?_categories_eq_some_iff.1 hsome
      exact absurd hj (hgoverns j c)

example : categories ["And a", "given b", "* c", "stray", "But d", "THEN e"] =
    [none, some .setting, some .setting, none, none, some .outcome] := by
  decide +kernel

/-- A category stands among those of the steps if and only if a step opens it. -/
theorem mem_categories_iff : some c ∈ categories steps ↔ ∃ step ∈ steps, Opens c step := by
  constructor
  · intro hmem
    obtain ⟨i, hi⟩ := List.mem_iff_getElem?.1 hmem
    obtain ⟨j, hj⟩ := getElem?_categories_eq_some_iff.1 hi
    obtain ⟨step, hstep, hopens⟩ := hj.opens
    exact ⟨step, List.mem_of_getElem? hstep, hopens⟩
  · rintro ⟨step, hmem, hopens⟩
    obtain ⟨i, hi⟩ := List.mem_iff_getElem?.1 hmem
    have hgoverns : Governs steps i i c := governs_self_iff.2 ⟨step, hi, hopens⟩
    exact List.mem_of_getElem? (getElem?_categories_eq_some_iff.2 ⟨i, hgoverns⟩)

end Governs

end FeatureAudit.Step
