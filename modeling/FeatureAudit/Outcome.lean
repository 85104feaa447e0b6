import FeatureAudit.Analysis.Report
import FeatureAudit.Corpus.Load
import FeatureAudit.Detect.Registry

/-!
# Outcomes

The result of an audit: the report on tags, the findings of both families, and the documents that
could not be read.
-/

set_option autoImplicit false

namespace FeatureAudit

/-- How far an audit got. -/
inductive Status where
  /-- Every document was audited. -/
  | complete
  /-- Some documents could not be read. -/
  | incomplete
  /-- There was no document to audit. -/
  | nothing
  deriving DecidableEq, Repr

/-- The name of a status. -/
def Status.name : Status → String
  | .complete => "complete"
  | .incomplete => "partial"
  | .nothing => "nothing_to_analyze"

/-- The result of an audit. -/
structure Outcome where
  /-- How far it got. -/
  status : Status
  /-- The features. -/
  features : List Feature
  /-- The report on tags. -/
  report : Report
  /-- The findings about tags. -/
  tagQuality : List Finding
  /-- The findings about anti-patterns. -/
  antiPatterns : List Finding
  /-- The documents that could not be parsed. -/
  failures : List Failure
  /-- All documents. -/
  paths : List SourcePath

namespace Outcome

/-- The status of a number of features and failures. -/
def statusOf (features : List Feature) (failures : List Failure) : Status :=
  if features.isEmpty then .nothing else if failures.isEmpty then .complete else .incomplete

/-- The findings of the standard detectors of a family. -/
def findingsOf (c : Config) (v : Survey) (family : Family) : List Finding :=
  Detector.runAll c.setting v (Registry.standard.detectors family)

/-- Audits features. -/
def ofFeatures (c : Config) (features : List Feature) (failures : List Failure)
    (paths : List SourcePath) : Outcome :=
  let survey := Survey.ofFeatures c.toCriteria features
  { status := statusOf features failures
    features
    report := Report.ofConcordance features survey.concordance
    tagQuality := findingsOf c survey .tagQuality
    antiPatterns := findingsOf c survey .antiPattern
    failures
    paths }

/-- The threshold that findings of a type quote. -/
def quoted? : WarningType → Option Threshold
  | .longScenario => some .maxSteps
  | .tooFewExamples => some .minExamples
  | .excessiveTags => some .maxTags
  | .longScenarioName => some .maxScenarioNameLength
  | .longStepText => some .maxStepLength
  | _ => none

/-- Whether findings of a type quote a threshold that has more digits than can be written. -/
def tooLong (c : Config) (type : WarningType) : Bool :=
  (quoted? type).any fun t => Decimal.digitBound ≤ (c.threshold t).natAbs

/-- Whether a finding quotes a threshold that has more digits than can be written. -/
def quotesTooMuch (c : Config) (o : Outcome) : Bool :=
  (o.tagQuality ++ o.antiPatterns).any fun f => tooLong c f.type

/-- Audits features, unless a finding cannot be written. -/
def ofFeatures? (c : Config) (features : List Feature) (failures : List Failure)
    (paths : List SourcePath) : Option Outcome :=
  let o := ofFeatures c features failures paths
  if quotesTooMuch c o then none else some o

/-- Thresholds that can be written keep no outcome back. -/
theorem ofFeatures?_eq_some_of_lt {c : Config}
    (h : ∀ t, (c.threshold t).natAbs < Decimal.digitBound) (features : List Feature)
    (failures : List Failure) (paths : List SourcePath) :
    ofFeatures? c features failures paths = some (ofFeatures c features failures paths) := by
  have hwritten : ∀ type, tooLong c type = false := by
    intro type
    rw [tooLong, Option.any_eq_false]
    intro t _
    simpa using h t
  simp [ofFeatures?, quotesTooMuch, hwritten]

/-- The standard thresholds can be written. -/
theorem natAbs_threshold_standard_lt [PatternEngine] (t : Threshold) :
    (Config.standard.threshold t).natAbs < Decimal.digitBound := by
  have hthreshold : Config.standard.threshold t = Threshold.standard t := rfl
  rw [hthreshold]
  cases t <;> decide +kernel

/-- All findings by path, line, type and message. -/
def warnings (o : Outcome) : List Finding :=
  Text.sortBy Finding.compare (o.tagQuality ++ o.antiPatterns)

/-- The findings of a severity. -/
def warningsAt (o : Outcome) (s : Severity) : List Finding :=
  o.warnings.filter fun f => f.severity == s

/-- Whether a finding is an error. -/
def hasErrors (o : Outcome) : Bool := o.warnings.any fun f => f.severity == .error

/-- What was audited, in a phrase. -/
def auditText (o : Outcome) : String :=
  match o.status with
  | .nothing => "Nothing to analyze: no feature files were parsed"
  | _ =>
    "Analyzed " ++ toString o.features.length ++ " feature file(s): " ++
      toString o.report.concordance.size ++ " unique tag(s), " ++
      toString o.tagQuality.length ++ " tag quality warning(s), " ++
      toString o.antiPatterns.length ++ " anti-pattern warning(s)"

/-- The outcome in a line. -/
def summary (o : Outcome) : String :=
  o.auditText ++
    if o.failures.isEmpty then ""
    else "; " ++ toString o.failures.length ++ " file(s) could not be read"

end Outcome

end FeatureAudit
