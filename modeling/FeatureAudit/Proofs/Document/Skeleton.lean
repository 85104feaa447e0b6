import FeatureAudit.Proofs.Document.Frame

/-!
# Scenarios and steps stand where the document has them

The skeleton of a document is read off its lines without any state: every keyword line outside
fenced blocks is a scenario, and its steps are the steps up to the next keyword line. Reading a
document gives this skeleton and nothing else (`skeletons_read`).
-/

set_option autoImplicit false

namespace FeatureAudit.Document

/-! ## Skeletons -/

/-- The kind, name, line and steps of a scenario. -/
structure Skeleton where
  /-- The kind. -/
  kind : ScenarioKind
  /-- The name, possibly empty. -/
  name : String
  /-- The line of the keyword. -/
  line : Int
  /-- The steps. -/
  steps : List String
  deriving DecidableEq, Repr

/-- The skeleton of a scenario. -/
def Skeleton.ofScenario (sc : Scenario) : Skeleton := ⟨sc.kind, sc.name, sc.line, sc.steps⟩

/-- A skeleton with further steps. -/
def Skeleton.addSteps (steps : List String) (sk : Skeleton) : Skeleton :=
  { sk with steps := sk.steps ++ steps }

/-- The steps in front of the next keyword line of a scenario. -/
def leadingSteps (ls : List NumberedLine) : List String :=
  ((ls.takeWhile fun l => (scenarioHeadline? l.text).isNone).filter fun l => isStep l.text).map
    fun l => String.ofList l.text

/-- The skeletons of the scenarios of some lines: one for each keyword line, with the steps up to
the next one. -/
def skeletons : List NumberedLine → List Skeleton
  | [] => []
  | l :: ls =>
    match scenarioHeadline? l.text with
    | some (kind, name) => ⟨kind, name, l.number, leadingSteps ls⟩ :: skeletons ls
    | none => skeletons ls

/-- The name that lines give to their feature: the one on its first keyword line. -/
def featureName (ls : List NumberedLine) : String :=
  match ls.findSome? fun l => headline? "Feature:" l.text with
  | some name => if name = "" then Feature.defaultName else name
  | none => Feature.defaultName

theorem leadingSteps_cons_keyword {l : NumberedLine} {found : ScenarioKind × String}
    (h : scenarioHeadline? l.text = some found) (ls : List NumberedLine) :
    leadingSteps (l :: ls) = [] := by
  simp [leadingSteps, h]

theorem leadingSteps_cons_step {l : NumberedLine} (h : scenarioHeadline? l.text = none)
    (hstep : isStep l.text = true) (ls : List NumberedLine) :
    leadingSteps (l :: ls) = String.ofList l.text :: leadingSteps ls := by
  simp [leadingSteps, h, hstep]

theorem leadingSteps_cons_other {l : NumberedLine} (h : scenarioHeadline? l.text = none)
    (hstep : isStep l.text = false) (ls : List NumberedLine) :
    leadingSteps (l :: ls) = leadingSteps ls := by
  simp [leadingSteps, h, hstep]

theorem skeletons_cons_none {l : NumberedLine} (h : scenarioHeadline? l.text = none)
    (ls : List NumberedLine) : skeletons (l :: ls) = skeletons ls := by
  rw [skeletons, h]

/-! ## Frames grow as skeletons do -/

namespace Frame

/-- The skeletons of the scenarios of a frame, the last one with steps still to come. -/
def skeletons (fr : Frame) (steps : List String) : List Skeleton :=
  fr.closed.map Skeleton.ofScenario ++
    (fr.last.map fun sc => (Skeleton.ofScenario sc).addSteps steps).toList

theorem skeletons_nil (fr : Frame) : fr.skeletons [] = fr.scenarios.map Skeleton.ofScenario := by
  have hnil : ∀ sk : Skeleton, sk.addSteps [] = sk := by simp [Skeleton.addSteps]
  simp [skeletons, scenarios, hnil, Option.toList_map]

/-- A step goes to the scenario opened last, in front of the steps still to come. -/
theorem skeletons_step_of_step {l : NumberedLine} (h : Line.classify l.text = .step) (fr : Frame)
    (steps : List String) :
    (fr.step l).skeletons steps = fr.skeletons (String.ofList l.text :: steps) := by
  simp [skeletons, step, h, Skeleton.addSteps, Skeleton.ofScenario, Function.comp_def]

/-- A keyword line closes the scenario opened last and opens one without steps. -/
theorem skeletons_step_of_scenario {l : NumberedLine} {kind : ScenarioKind} {name : String}
    (h : Line.classify l.text = .scenario kind name) (fr : Frame) (steps : List String) :
    (fr.step l).skeletons steps = fr.skeletons [] ++ [⟨kind, name, l.number, steps⟩] := by
  rw [skeletons_nil]
  simp [skeletons, scenarios, step, h, Skeleton.addSteps, Skeleton.ofScenario]

/-- No other line changes what has been read of the scenarios. -/
theorem skeletons_step_of_other {l : NumberedLine} (hstep : Line.classify l.text ≠ .step)
    (hscenario : (Line.classify l.text).scenario? = none) (fr : Frame) (steps : List String) :
    (fr.step l).skeletons steps = fr.skeletons steps := by
  unfold step
  split
  · exact absurd ‹_› hstep
  · rfl
  · split <;> rfl
  · simp_all [Line.scenario?]
  · split <;> rfl
  · rfl

/-- The skeletons after some lines, from any frame on. -/
theorem skeletons_foldl (fr : Frame) (ls : List NumberedLine) :
    (ls.foldl step fr).skeletons [] = fr.skeletons (leadingSteps ls) ++ Document.skeletons ls := by
  induction ls generalizing fr with
  | nil => simp [leadingSteps, Document.skeletons]
  | cons l ls ih =>
    rw [List.foldl_cons, ih]
    cases h : scenarioHeadline? l.text with
    | some found =>
      obtain ⟨kind, name⟩ := found
      rw [skeletons_step_of_scenario (Line.classify_eq_scenario_iff.2 h),
        leadingSteps_cons_keyword h, Document.skeletons, h, List.append_assoc]
      rfl
    | none =>
      rw [skeletons_cons_none h]
      cases hstep : isStep l.text with
      | true =>
        rw [skeletons_step_of_step (Line.classify_eq_step_iff.2 hstep),
          leadingSteps_cons_step h hstep]
      | false =>
        have hclass : Line.classify l.text ≠ .step := by
          rw [Ne, Line.classify_eq_step_iff, hstep]
          exact Bool.false_ne_true
        rw [scenarioHeadline?_eq_classify] at h
        rw [skeletons_step_of_other hclass h,
          leadingSteps_cons_other (by rwa [scenarioHeadline?_eq_classify]) hstep]

/-- The name changes once, at the first keyword line of the feature. -/
theorem name_foldl (fr : Frame) (ls : List NumberedLine) :
    (ls.foldl step fr).name =
      if fr.opened then fr.name
      else match ls.findSome? fun l => headline? "Feature:" l.text with
        | some name => if name = "" then fr.name else name
        | none => fr.name := by
  induction ls generalizing fr with
  | nil => simp
  | cons l ls ih =>
    rw [List.foldl_cons, ih, List.findSome?_cons, featureHeadline?_eq_classify]
    cases h : Line.classify l.text with
    | feature name =>
      cases ho : fr.opened with
      | true => simp [step, h, ho]
      | false => simp [step, h, ho, Line.feature?]
    | examples name =>
      simp only [step, h, Line.feature?]
      split <;> rfl
    | _ => simp only [step, h, Line.feature?]

end Frame

/-! ## Reading a document -/

/-- The scenarios of a document are exactly its keyword lines outside fenced blocks, in order, each
with its kind, its name, the number of its line and the steps up to the next keyword line; and the
feature has the name on its first keyword line, or else the name of a feature that has none. -/
theorem skeletons_read (text path : String) :
    (read text path).scenarios.map Skeleton.ofScenario = skeletons (outsideLines text) ∧
      (read text path).name = featureName (outsideLines text) := by
  obtain ⟨hname, -, hscenarios⟩ := read_frame text path
  constructor
  · have hbare : ∀ sc : Scenario, Skeleton.ofScenario sc.bare = Skeleton.ofScenario sc :=
      fun _ => rfl
    have hmap := congrArg (List.map Skeleton.ofScenario) hscenarios
    rw [List.map_map, Function.comp_def] at hmap
    simp only [hbare] at hmap
    rw [hmap, ← Frame.skeletons_nil, frameOf, Frame.skeletons_foldl]
    rfl
  · rw [hname, frameOf, Frame.name_foldl]
    rfl

end FeatureAudit.Document
