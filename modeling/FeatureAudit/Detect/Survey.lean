import FeatureAudit.Concordance
import FeatureAudit.Finding

/-!
# Surveys

What detectors look at: the features of a corpus, the criteria, and the concordance.
-/

set_option autoImplicit false

namespace FeatureAudit

/-- What detectors look at. -/
structure Survey where
  /-- The corpus. -/
  features : List Feature
  /-- What to judge by. -/
  criteria : Criteria
  /-- The counts of tags. -/
  concordance : Concordance

namespace Survey

/-- The survey of a corpus with its own concordance. -/
def ofFeatures (criteria : Criteria) (features : List Feature) : Survey :=
  ⟨features, criteria, Concordance.ofFeatures criteria.taxonomy features⟩

/-- The place where a feature first mentions a tag. -/
def placeIn? (t : Tag) (f : Feature) : Option Place :=
  if t.mentioned f.tags then some (.feature f)
  else (f.scenarios.find? fun s => t.mentioned s.tags).map (.scenario f)

/-- The place where a corpus first mentions a tag. -/
def firstPlace (features : List Feature) (t : Tag) : Place :=
  (features.findSome? (placeIn? t)).getD .corpus

/-- The number of features that mention a tag. -/
def carriers (features : List Feature) (t : Tag) : Nat :=
  features.countP fun f => f.carries t

end Survey

end FeatureAudit
