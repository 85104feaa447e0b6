import FeatureAudit.Proofs.Document.Frame

/-!
# Lines that open an element

Whether a line opens an element depends on the lines before it: only the first keyword line of a
feature counts, and a table of examples belongs to an outline. `opens?` says this of a line and the
lines before it; the frame of the lines before holds what is needed to decide it.
-/

set_option autoImplicit false

namespace FeatureAudit.Document

/-- What a line can open. -/
inductive Element where
  /-- The feature. -/
  | feature
  /-- A scenario of a kind. -/
  | scenario (kind : ScenarioKind)
  /-- A table of examples of an outline. -/
  | examples
  deriving DecidableEq, Repr

/-- A keyword line of a feature. -/
def NumberedLine.isFeature (l : NumberedLine) : Bool := (headline? "Feature:" l.text).isSome

/-- A keyword line of a scenario. -/
def NumberedLine.isScenario (l : NumberedLine) : Bool := (scenarioHeadline? l.text).isSome

/-- The kind on the latest keyword line of a scenario. -/
def latestKind? (before : List NumberedLine) : Option ScenarioKind :=
  (before.filterMap fun l => scenarioHeadline? l.text).getLast?.map Prod.fst

/-- What a line opens after some lines: the feature at its first keyword line, a scenario at every
keyword line of one, and a table of examples while the latest scenario is an outline. -/
def opens? (before : List NumberedLine) (l : NumberedLine) : Option Element :=
  if l.isFeature then if before.any NumberedLine.isFeature then none else some .feature
  else
    match scenarioHeadline? l.text with
    | some (kind, _) => some (.scenario kind)
    | none =>
      if (examplesHeadline? l.text).isSome ∧ latestKind? before = some .outline then some .examples
      else none

/-! ## Opening by the class of a line -/

theorem isFeature_eq_classify (l : NumberedLine) :
    l.isFeature = (Line.classify l.text).feature?.isSome := by
  rw [NumberedLine.isFeature, featureHeadline?_eq_classify]

theorem isScenario_eq_classify (l : NumberedLine) :
    l.isScenario = (Line.classify l.text).scenario?.isSome := by
  rw [NumberedLine.isScenario, scenarioHeadline?_eq_classify]

theorem opens?_eq_classify (before : List NumberedLine) (l : NumberedLine) : opens? before l =
    match Line.classify l.text with
    | .feature _ => if before.any NumberedLine.isFeature then none else some .feature
    | .scenario kind _ => some (.scenario kind)
    | .examples _ => if latestKind? before = some .outline then some .examples else none
    | _ => none := by
  rw [opens?, isFeature_eq_classify, scenarioHeadline?_eq_classify, examplesHeadline?_eq_classify]
  cases Line.classify l.text <;> simp [Line.feature?, Line.scenario?, Line.examples?]

theorem latestKind?_concat (before : List NumberedLine) (l : NumberedLine) :
    latestKind? (before ++ [l]) =
      match scenarioHeadline? l.text with
      | some (kind, _) => some kind
      | none => latestKind? before := by
  rw [latestKind?, List.filterMap_append]
  cases h : scenarioHeadline? l.text <;> simp [h, latestKind?]

/-! ## What the frame knows -/

theorem frameOf_concat (before : List NumberedLine) (l : NumberedLine) :
    frameOf (before ++ [l]) = (frameOf before).step l := by
  rw [frameOf, List.foldl_concat]
  rfl

theorem opened_frameOf (ls : List NumberedLine) :
    (frameOf ls).opened = ls.any NumberedLine.isFeature := by
  induction ls using List.reverseRecOn with
  | nil => rfl
  | append_singleton before l ih =>
    rw [frameOf_concat, List.any_append, List.any_cons, List.any_nil, Bool.or_false,
      isFeature_eq_classify, ← ih, Frame.step]
    cases Line.classify l.text with
    | feature name =>
      simp only [Line.feature?, Option.isSome_some, Bool.or_true]
      split
      · assumption
      · rfl
    | examples name =>
      simp only [Line.feature?, Option.isSome_none, Bool.or_false]
      split <;> rfl
    | _ => simp [Line.feature?]

theorem kind_frameOf (ls : List NumberedLine) :
    (frameOf ls).last.map Scenario.kind = latestKind? ls := by
  induction ls using List.reverseRecOn with
  | nil => rfl
  | append_singleton before l ih =>
    rw [frameOf_concat, latestKind?_concat, scenarioHeadline?_eq_classify, ← ih, Frame.step]
    cases Line.classify l.text with
    | feature name =>
      simp only [Line.scenario?]
      split <;> rfl
    | examples name =>
      simp only [Line.scenario?]
      split <;> rfl
    | step => simp [Line.scenario?, Function.comp_def]
    | _ => simp [Line.scenario?]

theorem isOutline_frameOf (ls : List NumberedLine) :
    (frameOf ls).last.any Scenario.isOutline = decide (latestKind? ls = some .outline) := by
  rw [← kind_frameOf]
  cases (frameOf ls).last with
  | none => rfl
  | some sc => simp [Scenario.isOutline, beq_eq_decide]

end FeatureAudit.Document
