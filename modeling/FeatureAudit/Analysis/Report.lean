import FeatureAudit.Analysis.CoOccurrence
import FeatureAudit.Analysis.Significance
import FeatureAudit.Analysis.Trend

/-!
# Reports on the tags of a corpus

Counts, co-occurrences, trends and scores of a corpus, with the questions one can ask about them.
-/

set_option autoImplicit false

namespace FeatureAudit

/-- What is known about the tags of a corpus. -/
structure Report where
  /-- The counts. -/
  concordance : Concordance
  /-- The co-occurrences, the closest first. -/
  pairs : List CoOccurrence
  /-- The trend of every tag. -/
  trends : List Trend
  /-- The score of every tag. -/
  significance : List (Tag × Float)
  /-- The number of features. -/
  features : Nat
  /-- The number of scenarios besides backgrounds. -/
  scenarios : Nat

namespace Report

/-- The report on a corpus with a concordance. -/
def ofConcordance (features : List Feature) (concordance : Concordance) : Report :=
  { concordance
    pairs := CoOccurrence.ofFeatures features
    trends := Trend.ofFeatures features concordance
    significance := Significance.ofFeatures features concordance
    features := features.length
    scenarios := (features.flatMap Feature.foreground).length }

/-- The report on a corpus with any concordance, unless a count is too large for a score. -/
def ofConcordance? (features : List Feature) (concordance : Concordance) : Option Report :=
  if Significance.overflows features concordance then none
  else some (ofConcordance features concordance)

/-- The report on a corpus. -/
def ofFeatures (taxonomy : Taxonomy) (features : List Feature) : Report :=
  ofConcordance features (Concordance.ofFeatures taxonomy features)

/-- The first items of a list; a negative limit leaves out so many at the end. -/
def upTo {α : Type} (limit : Int) (xs : List α) : List α :=
  if limit < 0 then xs.take (xs.length - limit.natAbs) else xs.take limit.toNat

/-- The co-occurrence of two tags, in any order. -/
def pair? (r : Report) (t u : Tag) : Option CoOccurrence := r.pairs.find? fun e => e.joins t u

/-- The quotient of two tags; zero if they do not co-occur. -/
def coefficient (r : Report) (t u : Tag) : Float :=
  ((r.pair? t u).map CoOccurrence.coefficient).getD 0.0

/-- The co-occurrences of a tag. -/
def pairsOf (r : Report) (t : Tag) : List CoOccurrence := r.pairs.filter fun e => e.involves t

/-- The trend of a tag. -/
def trend? (r : Report) (t : Tag) : Option Trend := r.trends.find? fun d => t.same d.tag

/-- The tags that go in a direction. -/
def trending (r : Report) (d : Direction) : List Tag :=
  (r.trends.filter fun t => t.direction == d).map Trend.tag

/-- The most significant tags with their scores. -/
def mostSignificant (r : Report) (limit : Int) : List (Tag × Float) :=
  upTo limit (Significance.ranked r.significance)

end Report

end FeatureAudit
