import FeatureAudit.Detect.AntiPattern

/-!
# Detectors and their registry

A detector reports findings of one type. The registry holds, for each family, the detectors that
run; no family holds a detector twice. Which kind of detectors it holds is left open: besides the
standard detectors there may be others, which report what they like.
-/

set_option autoImplicit false

namespace FeatureAudit

/-- A kind of detectors. -/
class DetectorKind (δ : Type) where
  /-- The type that a detector is switched off with. -/
  type : δ → WarningType
  /-- What a detector reports in a survey, under the settings of the types. -/
  report : (WarningType → WarningSetting) → Survey → δ → List Finding

namespace DetectorKind

variable {δ : Type} [DetectorKind δ]

/-- The findings of a detector; none if its type is switched off. -/
def findings (setting : WarningType → WarningSetting) (v : Survey) (d : δ) : List Finding :=
  if (setting (type d)).enabled then report setting v d else []

/-- The findings of detectors in their order. -/
def runAll (setting : WarningType → WarningSetting) (v : Survey) (detectors : List δ) :
    List Finding :=
  detectors.flatMap (findings setting v)

end DetectorKind

/-- A detector that observes something of its type. -/
inductive Detector where
  /-- The detector of a type. -/
  | standard (type : WarningType)
  /-- A detector that leaves a note on every feature. -/
  | note (type : WarningType) (label : String)
  deriving DecidableEq, Repr

namespace Detector

/-- The type of a detector's findings. -/
def type : Detector → WarningType
  | .standard t => t
  | .note t _ => t

/-- The name of a detector: its type, and its label if it has one. -/
def name : Detector → String
  | .standard t => t.name
  | .note t label => t.name ++ "/" ++ label

/-- What a detector observes. -/
def observe (v : Survey) : Detector → List Observation
  | .standard t =>
    match t.family with
    | .tagQuality => Detect.tagQuality v t
    | .antiPattern => Detect.antiPatterns v t
  | .note _ label => v.features.map fun f => ⟨"custom " ++ label, .feature f, none⟩

instance : DetectorKind Detector where
  type := type
  report setting v d := (d.observe v).map (Finding.of d.type (setting d.type))

/-- The findings of a detector. -/
abbrev findings (setting : WarningType → WarningSetting) (v : Survey) (d : Detector) :
    List Finding :=
  DetectorKind.findings setting v d

/-- The findings of detectors in their order. -/
abbrev runAll (setting : WarningType → WarningSetting) (v : Survey) (detectors : List Detector) :
    List Finding :=
  DetectorKind.runAll setting v detectors

theorem findings_eq (setting : WarningType → WarningSetting) (v : Survey) (d : Detector) :
    d.findings setting v = if (setting d.type).enabled then
      (d.observe v).map (Finding.of d.type (setting d.type)) else [] := rfl

theorem runAll_eq (setting : WarningType → WarningSetting) (v : Survey) (ds : List Detector) :
    runAll setting v ds = ds.flatMap (findings setting v) := rfl

/-- The standard detectors of a family. -/
def ofFamily (family : Family) : List Detector := (WarningType.ofFamily family).map standard

end Detector

/-- The detectors of each family. -/
structure Registry (δ : Type) where
  /-- The detectors of tag quality. -/
  tagQuality : List δ
  /-- The detectors of anti-patterns. -/
  antiPatterns : List δ
  deriving DecidableEq, Repr

namespace Registry

/-- The registry of the standard detectors. -/
def standard : Registry Detector :=
  ⟨Detector.ofFamily .tagQuality, Detector.ofFamily .antiPattern⟩

variable {δ : Type}

/-- The detectors of a family. -/
def detectors (r : Registry δ) : Family → List δ
  | .tagQuality => r.tagQuality
  | .antiPattern => r.antiPatterns

/-- Changes the detectors of a family. -/
def modify (r : Registry δ) (family : Family) (change : List δ → List δ) : Registry δ :=
  match family with
  | .tagQuality => { r with tagQuality := change r.tagQuality }
  | .antiPattern => { r with antiPatterns := change r.antiPatterns }

variable [DecidableEq δ]

/-- Puts a detector at the end of a list unless it is there. -/
def enlist (d : δ) (ds : List δ) : List δ := if ds.contains d then ds else ds ++ [d]

/-- Adds a detector to a family, by default the family of its type. -/
def register [DetectorKind δ] (r : Registry δ) (d : δ) (family : Option Family) : Registry δ :=
  r.modify (family.getD (DetectorKind.type d).family) (enlist d)

/-- Removes a detector from every family. -/
def unregister (r : Registry δ) (d : δ) : Registry δ :=
  ⟨r.tagQuality.erase d, r.antiPatterns.erase d⟩

end Registry

end FeatureAudit
