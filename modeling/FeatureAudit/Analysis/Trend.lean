import FeatureAudit.Analysis.Regression
import FeatureAudit.Concordance

/-!
# Trends of tags

Whether a tag is used more or less along the corpus is told by the slope of its timeline, which
has a one for every feature that mentions the tag and a zero for every other feature.
-/

set_option autoImplicit false

namespace FeatureAudit

/-- Which way the use of a tag goes. -/
inductive Direction where
  /-- It is used more. -/
  | rising
  /-- It is used less. -/
  | declining
  /-- It is used about as much. -/
  | stable
  deriving DecidableEq, Repr

namespace Direction

/-- The name of a direction. -/
def name : Direction → String
  | .rising => "Rising"
  | .declining => "Declining"
  | .stable => "Stable"

/-- The direction of a name. -/
def ofName? (s : String) : Option Direction :=
  [rising, declining, stable].find? fun d => d.name == s

/-- The direction of a slope: above an upper bound, below a lower bound, or between. -/
def within {α : Type} [LT α] [DecidableLT α] (lower upper slope : α) : Direction :=
  if upper < slope then .rising else if slope < lower then .declining else .stable

/-- The direction of a slope. Up to a tenth it is hardly one. -/
def ofSlope (slope : Float) : Direction := within (-0.1) 0.1 slope

/-- The direction of the exact slope of whole numbers, with the bounds multiplied by ten times its
denominator. -/
def ofValues (values : List Int) : Direction :=
  let run := Regression.denominator values.length
  within (-run) run (10 * Regression.numerator .integers values)

end Direction

/-- How a tag is used along a corpus. -/
structure Trend where
  /-- The tag. -/
  tag : Tag
  /-- For every feature, whether it mentions the tag. -/
  timeline : List Int
  /-- The count in the concordance. -/
  total : Int
  /-- The scenarios that have the tag themselves. -/
  scenarios : Nat
  /-- The features that have the tag themselves. -/
  features : Nat
  /-- The tags that stand in the same tag lists. -/
  associated : Tag.Tally
  deriving DecidableEq, Repr

namespace Trend

/-- The slope of the timeline. -/
def slope (t : Trend) : Float := Regression.exactSlope t.timeline

/-- The direction of the timeline. -/
def direction (t : Trend) : Direction := Direction.ofValues t.timeline

/-- The associated tags, the most frequent first. -/
def associations (t : Trend) : Tag.Tally :=
  Text.sortBy (fun e f =>
    (Text.compareInts f.2 e.2).then (Text.compareTexts e.1.folded f.1.folded)) t.associated

/-- For every feature, one if it mentions a tag and zero if not. -/
def timelineOf (features : List Feature) (t : Tag) : List Int :=
  features.map fun f => if t.mentioned f.tagSet then 1 else 0

/-- The tags that stand beside a tag in a list. -/
def beside (t : Tag) (tags : List Tag) : List Tag :=
  if t.mentioned tags then (Tag.distinct tags).filter fun u => !t.same u else []

/-- The tags that stand beside a tag in a corpus, with the number of lists. -/
def associatedIn (features : List Feature) (t : Tag) : Tag.Tally :=
  Tag.Tally.ofTags ((features.flatMap Feature.tagLists).flatMap (beside t))

/-- The trend of a tag. -/
def ofTag (features : List Feature) (concordance : Concordance) (t : Tag) : Trend :=
  { tag := t
    timeline := timelineOf features t
    total := concordance.count t
    scenarios := (features.flatMap Feature.scenarios).countP fun s => t.mentioned s.tags
    features := features.countP fun f => t.mentioned f.tags
    associated := associatedIn features t }

/-- The trends of all tags of a concordance. -/
def ofFeatures (features : List Feature) (concordance : Concordance) : List Trend :=
  concordance.tags.map (ofTag features concordance)

end Trend

end FeatureAudit
