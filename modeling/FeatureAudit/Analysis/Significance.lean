import FeatureAudit.Concordance
import FeatureAudit.Decimal.Binary64

/-!
# Significance of tags

A tag is significant if it is used often but on few features. The score is the count per feature,
times the logarithm of the number of features per feature that mentions the tag, and never below
zero.
-/

set_option autoImplicit false

namespace FeatureAudit.Significance

/-- The number of features that mention each tag: a feature counts every tag of its set once. -/
def documentFrequencies (features : List Feature) : Tag.Tally :=
  Tag.Tally.ofTags (features.flatMap Feature.tagSet)

/-- The score of a tag with a count among `total` features, of which `frequency` mention it. -/
def score (total : Nat) (count : Int) (frequency : Nat) : Float :=
  let x := Decimal.nearest count total * Float.log (Decimal.nearest total (frequency + 1))
  if 0.0 < x then x else 0.0

/-- The scores of all tags of a concordance; none for an empty corpus. -/
def ofFeatures (features : List Feature) (concordance : Concordance) : List (Tag × Float) :=
  if features.isEmpty then []
  else
    let frequencies := documentFrequencies features
    concordance.tags.map fun t =>
      (t, score features.length (concordance.count t) (frequencies.count t).toNat)

/-- Whether a count per feature is beyond every double, so that there is no score. Counts that
come from the features themselves never are. -/
def overflows (features : List Feature) (concordance : Concordance) : Bool :=
  !features.isEmpty && concordance.counts.any fun e =>
    (Decimal.nearest e.2 features.length).isInf

/-- Whether one score is greater than another. -/
def compareScores (x y : Float) : Ordering := if y < x then .lt else if x < y then .gt else .eq

/-- The scores, the greatest first. -/
def ranked (scores : List (Tag × Float)) : List (Tag × Float) :=
  Text.sortBy (fun e f =>
    (compareScores e.2 f.2).then (Text.compareTexts e.1.folded f.1.folded)) scores

end FeatureAudit.Significance
