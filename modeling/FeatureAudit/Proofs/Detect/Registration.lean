import Mathlib.Data.List.Nodup
import FeatureAudit.Detect.Registry

/-!
# Which detectors are registered

Whatever detectors of whatever kind are registered and unregistered, and in whatever order, the
registry holds for each family exactly those whose last registration to the family has not been taken
back since, each once, and those that stay keep their order (`run_registered`).

Removing a detector drops one occurrence only. It is gone all the same because no family ever holds
it twice, so that what a change keeps and what it drops is told for registries without duplicates:

* `mem_detectors_apply`, `duplicateFree_apply`, `filter_prefix_apply`: what one change does;
* `mem_detectors_run`, `duplicateFree_run`, `filter_prefix_run`: what any number of changes do.
-/

set_option autoImplicit false

namespace FeatureAudit.Registry

/-! ## Changes -/

variable {δ : Type}

/-- A change of a registry. -/
inductive Change (δ : Type) where
  /-- Registers a detector to a family that is given, or else to the family of its type. -/
  | register (d : δ) (given : Option Family)
  /-- Unregisters a detector. -/
  | unregister (d : δ)
  deriving DecidableEq, Repr

/-- No family holds a detector twice. -/
def DuplicateFree (r : Registry δ) : Prop := ∀ family, (r.detectors family).Nodup

/-- A registry is told by the detectors of the families. -/
theorem ext_detectors {r s : Registry δ} (h : ∀ family, r.detectors family = s.detectors family) :
    r = s := by
  obtain ⟨rtags, rpatterns⟩ := r
  obtain ⟨stags, spatterns⟩ := s
  have htags : rtags = stags := h .tagQuality
  have hpatterns : rpatterns = spatterns := h .antiPattern
  rw [htags, hpatterns]

section Kind

variable [DetectorKind δ]

/-- Whether a change registers a detector to a family. -/
def Change.Registers (c : Change δ) (d : δ) (family : Family) : Prop :=
  ∃ given : Option Family, c = .register d given ∧
    given.getD (DetectorKind.type d).family = family

/-- Whether changes register a detector to a family and do not unregister it later. -/
def Gained (changes : List (Change δ)) (d : δ) (family : Family) : Prop :=
  ∃ before c after, changes = before ++ c :: after ∧ c.Registers d family ∧ .unregister d ∉ after

theorem gained_cons {c : Change δ} {changes : List (Change δ)} {d : δ} {family : Family} :
    Gained (c :: changes) d family ↔
      c.Registers d family ∧ .unregister d ∉ changes ∨ Gained changes d family := by
  constructor
  · rintro ⟨before, c', after, hsplit, hregisters, hkept⟩
    cases before with
    | nil =>
      cases hsplit
      exact Or.inl ⟨hregisters, hkept⟩
    | cons b before =>
      obtain ⟨rfl, rfl⟩ := List.cons.inj hsplit
      exact Or.inr ⟨before, c', after, rfl, hregisters, hkept⟩
  · rintro (⟨hregisters, hkept⟩ | ⟨before, c', after, rfl, hregisters, hkept⟩)
    · exact ⟨[], c, changes, rfl, hregisters, hkept⟩
    · exact ⟨c :: before, c', after, rfl, hregisters, hkept⟩

end Kind

variable [DecidableEq δ] {r : Registry δ} {d e : δ} {ds : List δ} {family : Family}

/-! ## Lists of detectors -/

theorem mem_enlist : e ∈ enlist d ds ↔ e = d ∨ e ∈ ds := by
  rw [enlist]
  split
  · rename_i hmem
    have hd : d ∈ ds := by simpa using hmem
    exact ⟨Or.inr, fun h => h.elim (fun he => he ▸ hd) id⟩
  · rw [List.mem_append, List.mem_singleton, or_comm]

theorem enlist_of_mem (h : d ∈ ds) : enlist d ds = ds := by simp [enlist, h]

theorem nodup_enlist (h : ds.Nodup) : (enlist d ds).Nodup := by
  by_cases hd : d ∈ ds
  · rwa [enlist_of_mem hd]
  · rw [enlist, if_neg (by simpa using hd)]
    refine List.nodup_append.2 ⟨h, List.nodup_singleton d, ?_⟩
    rintro e he _ hlast rfl
    exact hd (List.mem_singleton.1 hlast ▸ he)

theorem prefix_enlist : ds <+: enlist d ds := by
  rw [enlist]
  split
  · exact List.prefix_refl ds
  · exact List.prefix_append ds [d]

theorem detectors_unregister (r : Registry δ) (d : δ) (family : Family) :
    (r.unregister d).detectors family = (r.detectors family).erase d := by
  cases family <;> rfl

variable [DetectorKind δ]

/-- A registration adds to one family and leaves the other one as it is. -/
theorem detectors_register (r : Registry δ) (d : δ) (given : Option Family)
    (family : Family) : (r.register d given).detectors family =
      if given.getD (DetectorKind.type d).family = family then enlist d (r.detectors family)
      else r.detectors family := by
  rw [register]
  cases given.getD (DetectorKind.type d).family <;> cases family <;> rfl

/-- A registry after a change. -/
def apply (r : Registry δ) : Change δ → Registry δ
  | .register d given => r.register d given
  | .unregister d => r.unregister d

/-- A registry after changes in order. -/
def run (r : Registry δ) (changes : List (Change δ)) : Registry δ := changes.foldl apply r

/-! ## One change -/

theorem duplicateFree_apply (h : r.DuplicateFree) (c : Change δ) : (r.apply c).DuplicateFree := by
  intro family
  cases c with
  | register d given =>
    rw [apply, detectors_register]
    split
    · exact nodup_enlist (h family)
    · exact h family
  | unregister d =>
    rw [apply, detectors_unregister]
    exact (h family).erase d

theorem mem_detectors_apply (h : r.DuplicateFree) (c : Change δ) :
    d ∈ (r.apply c).detectors family ↔
      d ∈ r.detectors family ∧ c ≠ .unregister d ∨ c.Registers d family := by
  cases c with
  | register e given =>
    have hkept : Change.register e given ≠ .unregister d := nofun
    have hregisters : (Change.register e given).Registers d family ↔
        d = e ∧ given.getD (DetectorKind.type e).family = family := by
      constructor
      · rintro ⟨_, hc, hfamily⟩
        cases hc
        exact ⟨rfl, hfamily⟩
      · rintro ⟨rfl, hfamily⟩
        exact ⟨given, rfl, hfamily⟩
    rw [apply, detectors_register, hregisters]
    split
    · rename_i hfamily
      simp [mem_enlist, hkept, hfamily, or_comm]
    · rename_i hfamily
      simp [hkept, hfamily]
  | unregister e =>
    have hregisters : ¬ (Change.unregister e).Registers d family := nofun
    rw [apply, detectors_unregister, (h family).mem_erase_iff, or_iff_left hregisters]
    simp [and_comm, eq_comm]

/-- The detectors that a change keeps stand in front, in the order in which they stood. -/
theorem filter_prefix_apply (h : r.DuplicateFree) (c : Change δ) (family : Family) :
    (r.detectors family).filter (fun d => decide (c ≠ .unregister d)) <+:
      (r.apply c).detectors family := by
  cases c with
  | register e given =>
    have hkept : ∀ d, decide (Change.register e given ≠ .unregister d) = true := by simp
    rw [List.filter_eq_self.2 fun d _ => hkept d, apply, detectors_register]
    split
    · exact prefix_enlist
    · exact List.prefix_refl _
  | unregister e =>
    have hkept : (fun d => decide (Change.unregister e ≠ .unregister d)) = fun d => d != e := by
      funext d
      rw [Bool.eq_iff_iff, decide_eq_true_iff, bne_iff_ne, ne_eq, Change.unregister.injEq]
      exact not_congr eq_comm
    simp only [apply, detectors_unregister, (h family).erase_eq_filter, hkept, List.prefix_refl]

/-! ## Any number of changes -/

theorem run_cons (r : Registry δ) (c : Change δ) (changes : List (Change δ)) :
    r.run (c :: changes) = (r.apply c).run changes := rfl

theorem run_append (r : Registry δ) (before after : List (Change δ)) :
    r.run (before ++ after) = (r.run before).run after :=
  List.foldl_append

theorem duplicateFree_run (h : r.DuplicateFree) (changes : List (Change δ)) :
    (r.run changes).DuplicateFree := by
  induction changes generalizing r with
  | nil => exact h
  | cons c changes ih => exact ih (duplicateFree_apply h c)

theorem mem_detectors_run (h : r.DuplicateFree) (changes : List (Change δ)) :
    d ∈ (r.run changes).detectors family ↔
      d ∈ r.detectors family ∧ .unregister d ∉ changes ∨ Gained changes d family := by
  induction changes generalizing r with
  | nil => simp [run, Gained]
  | cons c changes ih =>
    rw [run_cons, ih (duplicateFree_apply h c), mem_detectors_apply h, gained_cons, List.mem_cons,
      not_or, ne_comm, or_and_right, and_assoc, or_assoc]

/-- The detectors that are not unregistered stand in front, in the order in which they stood. -/
theorem filter_prefix_run (h : r.DuplicateFree) (changes : List (Change δ)) (family : Family) :
    (r.detectors family).filter (fun d => decide (.unregister d ∉ changes)) <+:
      (r.run changes).detectors family := by
  induction changes generalizing r with
  | nil =>
    rw [List.filter_eq_self.2 fun d _ => by simp]
    exact List.prefix_refl _
  | cons c changes ih =>
    have hkept : (r.detectors family).filter (fun d => decide (.unregister d ∉ c :: changes)) =
        ((r.detectors family).filter fun d => decide (c ≠ .unregister d)).filter
          fun d => decide (.unregister d ∉ changes) := by
      rw [List.filter_filter]
      refine List.filter_congr fun d _ => ?_
      simp [Bool.and_comm, eq_comm]
    rw [hkept]
    exact ((filter_prefix_apply h c family).filter _).trans (ih (duplicateFree_apply h c))

/-! ## What the registry holds -/

/-- **The registry holds what was registered last and not unregistered since.** From a registry
without duplicates no changes lead to duplicates. A family has a detector exactly if it had it before
and the detector is never unregistered, or if the detector is registered to it and not unregistered
later. Unregistering leaves every family with its other detectors in their order, and registering a
detector that the family has changes nothing. At any time, the detectors of a family that are not
unregistered later stand in front at the end, in the order in which they stood. A detector that is
registered runs exactly once: the findings of a family are its findings between those of others. -/
theorem run_registered (h : r.DuplicateFree) (changes : List (Change δ)) :
    let s := r.run changes
    s.DuplicateFree ∧
    (∀ family d, d ∈ s.detectors family ↔
      d ∈ r.detectors family ∧ .unregister d ∉ changes ∨ Gained changes d family) ∧
    (∀ d family, (s.unregister d).detectors family = (s.detectors family).filter (· != d)) ∧
    (∀ d (given : Option Family), d ∈ s.detectors (given.getD (DetectorKind.type d).family) →
      s.register d given = s) ∧
    (∀ before after family, changes = before ++ after →
      ((r.run before).detectors family).filter (fun d => decide (.unregister d ∉ after)) <+:
        s.detectors family) ∧
    ∀ setting v family d, d ∈ s.detectors family → ∃ before after, d ∉ before ∧ d ∉ after ∧
      s.detectors family = before ++ d :: after ∧
      DetectorKind.runAll setting v (s.detectors family) = DetectorKind.runAll setting v before ++
        (DetectorKind.findings setting v d ++ DetectorKind.runAll setting v after) := by
  intro s
  have hs : s.DuplicateFree := duplicateFree_run h changes
  refine ⟨hs, fun family d => mem_detectors_run h changes, ?_, ?_, ?_, ?_⟩
  · intro d family
    rw [detectors_unregister, (hs family).erase_eq_filter]
  · intro d given hd
    refine ext_detectors fun family => ?_
    rw [detectors_register]
    split
    · rename_i hfamily
      exact enlist_of_mem (hfamily ▸ hd)
    · rfl
  · rintro before after family rfl
    have hrun : s = (r.run before).run after := run_append r before after
    rw [hrun]
    exact filter_prefix_run (duplicateFree_run h before) after family
  · intro setting v family d hd
    obtain ⟨before, after, hsplit⟩ := List.append_of_mem hd
    have honce := hs family
    rw [hsplit, List.nodup_middle, List.nodup_cons, List.mem_append, not_or] at honce
    refine ⟨before, after, honce.1.1, honce.1.2, hsplit, ?_⟩
    rw [hsplit, DetectorKind.runAll, List.flatMap_append, List.flatMap_cons]
    rfl

theorem duplicateFree_standard : standard.DuplicateFree := by
  intro family
  cases family <;> decide +kernel

/-- A detector of one's own. -/
def watch : Detector := .note .tagTypo "watch"

/-- A detector of one's own is registered to both families, and a standard detector is taken out and
put back. -/
def shift : List (Change Detector) :=
  [.register watch (some .antiPattern), .unregister (.standard .missingThen),
    .register watch none, .register (.standard .missingThen) none]

theorem run_registered_shift : standard.DuplicateFree ∧ (standard.run shift).DuplicateFree ∧
    watch ∈ (standard.run shift).detectors .tagQuality ∧
    .standard .tagTypo ∈ (standard.run shift).detectors .tagQuality ∧
    (standard.run shift).antiPatterns.drop 14 = [watch, .standard .missingThen] ∧
    (standard.run shift).register watch none = standard.run shift ∧
    ((standard.run shift).unregister watch).detectors .tagQuality = standard.tagQuality := by
  obtain ⟨hfree, hmem, hremoved, hagain, -⟩ := run_registered duplicateFree_standard shift
  have hwatch : watch ∈ (standard.run shift).detectors .tagQuality := by
    refine (hmem .tagQuality watch).2 (Or.inr ?_)
    exact ⟨shift.take 2, .register watch none, shift.drop 3, rfl, ⟨none, rfl, rfl⟩, by decide⟩
  have htypo : .standard .tagTypo ∈ (standard.run shift).detectors .tagQuality :=
    (hmem .tagQuality _).2 (Or.inl ⟨by decide +kernel, by decide⟩)
  refine ⟨duplicateFree_standard, hfree, hwatch, htypo, by decide +kernel, hagain watch none hwatch,
    (hremoved watch .tagQuality).trans ?_⟩
  decide +kernel

end FeatureAudit.Registry
