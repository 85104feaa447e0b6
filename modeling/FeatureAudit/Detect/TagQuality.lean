import FeatureAudit.Detect.Survey
import FeatureAudit.Tag.PriorityStyle

/-!
# Detectors of tag quality

Some detectors look at one feature at a time, at the tags that hold for its scenarios. The others
look at the concordance and point at the first place where a tag is mentioned.
-/

set_option autoImplicit false

namespace FeatureAudit.Detect

/-! ## One feature at a time -/

/-- Scenarios without a tag of a category. -/
def missingCategory (c : Criteria) (category : Tag.Category) (label : String) (f : Feature) :
    List Observation :=
  f.behaviors.flatMap fun s =>
    if (f.effectiveTags s).any fun t => c.taxonomy.categoryOf t == category then []
    else [⟨"Scenario is missing a " ++ label ++ " tag", .scenario f s, none⟩]

/-- Tags of a place that say little. -/
def lowValueAt (c : Criteria) (place : Place) (tags : List Tag) : List Observation :=
  (Tag.distinct tags).flatMap fun t =>
    if c.isLowValue t then
      [⟨"'" ++ t.name ++ "' is a known low-value tag that doesn't provide useful context", place,
        none⟩]
    else []

/-- Tags that say little, on a feature and on its scenarios. -/
def lowValue (c : Criteria) (f : Feature) : List Observation :=
  lowValueAt c (.feature f) f.tags ++
    f.foreground.flatMap fun s => lowValueAt c (.scenario f s) s.tags

/-- The mentions of tags that were mentioned before. -/
def repeatsAfter (seen : List Tag) : List Tag → List Tag
  | [] => []
  | t :: ts => if t.mentioned seen then t :: repeatsAfter seen ts else repeatsAfter (t :: seen) ts

/-- The tags that a list repeats, each once. -/
def duplicates (tags : List Tag) : List Tag := Tag.distinct (repeatsAfter [] tags)

/-- What a scenario repeats: tags of its own, and tags that its feature has already. -/
def duplicateParts (f : Feature) (s : Scenario) : List String :=
  (duplicates s.tags).map Tag.name ++
    ((Tag.distinct s.tags).filter fun t => t.mentioned f.tags).map fun t =>
      t.name ++ " (already on feature)"

/-- Tags that are repeated where they already hold. -/
def duplicateTags (f : Feature) : List Observation :=
  (if (duplicates f.tags).isEmpty then []
    else [⟨"Feature has duplicate tags: " ++
      Text.joinWith ", " ((duplicates f.tags).map Tag.name), .feature f, none⟩]) ++
    f.foreground.flatMap fun s =>
      if (duplicateParts f s).isEmpty then []
      else [⟨"Scenario has duplicate tags: " ++ Text.joinWith ", " (duplicateParts f s),
        .scenario f s, none⟩]

/-- Scenarios with too many tags. -/
def excessiveTags (c : Criteria) (f : Feature) : List Observation :=
  f.foreground.flatMap fun s =>
    let count := (f.effectiveTags s).length
    let limit := c.threshold .maxTags
    if limit < count then
      [⟨"Scenario has " ++ toString count ++ " tags, which is excessive (recommended max: " ++
        toString limit ++ ")", .scenario f s, none⟩]
    else []

/-! ## The corpus as a whole -/

/-- Tags that are used once. -/
def orphanedTags (v : Survey) : List Observation :=
  v.concordance.orphaned.map fun t =>
    ⟨"'" ++ t.name ++ "' is only used once across all features",
      Survey.firstPlace v.features t, none⟩

/-- Tags that are almost the same, each under the other. -/
def tagTypos (v : Survey) : List Observation :=
  v.concordance.similar.flatMap fun (t, others) =>
    others.map fun u =>
      ⟨"'" ++ t.name ++ "' might be a typo of '" ++ u.name ++ "'",
        Survey.firstPlace v.features t, some [u.name]⟩

/-- The styles of the priority tags of a corpus, by name. -/
def priorityStyles (v : Survey) : List String :=
  let tags := v.concordance.tags.filter fun t => v.criteria.taxonomy.categoryOf t == .priority
  let styles := (tags.filterMap fun t => Tag.priorityStyle? t.name).map Tag.PriorityStyle.name
  Text.sortBy Text.compareTexts styles.eraseDups

/-- Several styles of priority tags. -/
def inconsistentTagging (v : Survey) : List Observation :=
  if 1 < (priorityStyles v).length then
    [⟨"Multiple priority tag styles used across features (" ++
      Text.joinWith ", " (priorityStyles v) ++ ")", .corpus, none⟩]
  else []

/-- The most characters of an ambiguous tag besides its sign. -/
def ambiguousLength : Nat := 2

/-- Short tags that the taxonomy does not know. -/
def ambiguousTags (v : Survey) : List Observation :=
  (v.concordance.tags.filter fun t =>
    t.name.length ≤ ambiguousLength + 1 && v.criteria.taxonomy.categoryOf t == .other).map fun t =>
      ⟨"'" ++ t.name ++ "' is too short and ambiguous", Survey.firstPlace v.features t, none⟩

/-- Corpora with at most so many features have no generic tags. -/
def genericMinimum : Nat := 5

/-- Whether a tag is on nearly all features: on nine tenths of them or more. -/
def isGeneric (carrying total : Nat) : Bool := 9 * total ≤ 10 * carrying

/-- Tags on nearly all features. -/
def genericTags (v : Survey) : List Observation :=
  let total := v.features.length
  if total ≤ genericMinimum then []
  else v.concordance.tags.flatMap fun t =>
    let carrying := Survey.carriers v.features t
    if isGeneric carrying total then
      [⟨"'" ++ t.name ++ "' is used on nearly all features, making it too generic to be useful" ++
        " (used in " ++ toString carrying ++ " out of " ++ toString total ++ " features)",
        .corpus, none⟩]
    else []

/-! ## By type -/

/-- What is observed for a type about tags; nothing for the other types. -/
def tagQuality (v : Survey) : WarningType → List Observation
  | .missingPriorityTag => v.features.flatMap (missingCategory v.criteria .priority "priority")
  | .missingTypeTag => v.features.flatMap (missingCategory v.criteria .type "type")
  | .lowValueTag => v.features.flatMap (lowValue v.criteria)
  | .duplicateTag => v.features.flatMap duplicateTags
  | .excessiveTags => v.features.flatMap (excessiveTags v.criteria)
  | .orphanedTag => orphanedTags v
  | .tagTypo => tagTypos v
  | .inconsistentTagging => inconsistentTagging v
  | .ambiguousTag => ambiguousTags v
  | .tooGenericTag => genericTags v
  | _ => []

end FeatureAudit.Detect
