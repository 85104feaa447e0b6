import FeatureAudit.Decimal.Binary64
import FeatureAudit.Feature
import FeatureAudit.Tag.Tally
import FeatureAudit.Tag.Taxonomy

/-!
# Co-occurrence of tags

Two tags co-occur if they hold for the same scenario. How closely they belong together is told by
the quotient of the scenarios that have both and the scenarios that have either.
-/

set_option autoImplicit false

namespace FeatureAudit

/-- Two tags that hold for the same scenarios. -/
structure CoOccurrence where
  /-- The tag with the smaller name. -/
  first : Tag
  /-- The tag with the greater name. -/
  second : Tag
  /-- The scenarios that have both. -/
  count : Nat
  /-- The scenarios that have at least one. -/
  either : Nat
  deriving DecidableEq, Repr

namespace CoOccurrence

/-- The quotient of the scenarios with both tags and those with either. -/
def coefficient (e : CoOccurrence) : Float := Decimal.nearest e.count e.either

/-- Whether a tag is one of the two. -/
def involves (e : CoOccurrence) (t : Tag) : Bool := t.same e.first || t.same e.second

/-- Whether two tags are the two, in any order. -/
def joins (e : CoOccurrence) (t u : Tag) : Bool :=
  (t.same e.first && u.same e.second) || (t.same e.second && u.same e.first)

/-- The other tag of the two. -/
def partner? (e : CoOccurrence) (t : Tag) : Option Tag :=
  if t.same e.first then some e.second
  else if t.same e.second then some e.first
  else none

/-- Order by falling quotient, then by falling count, then by the names put together. -/
def compare (e f : CoOccurrence) : Ordering :=
  (Text.compareNats (f.count * e.either) (e.count * f.either)).then <|
    (Text.compareNats f.count e.count).then <|
      Text.compareTexts (e.first.name ++ e.second.name) (f.first.name ++ f.second.name)

/-- The tags that hold for each scenario besides backgrounds. -/
def tagSets (features : List Feature) : List (List Tag) :=
  features.flatMap fun f => f.foreground.map f.effectiveTags

/-- Whether two pairs are of the same tags. -/
def samePair (p q : Tag × Tag) : Bool := p.1.same q.1 && p.2.same q.2

/-- The first of every pair of tags. -/
def distinctPairs : List (Tag × Tag) → List (Tag × Tag)
  | [] => []
  | p :: ps => p :: (distinctPairs ps).filter fun q => !samePair p q

/-- The pairs of tags in each of some sets, the smaller name first. -/
def meetings (sets : List (List Tag)) : List (Tag × Tag) :=
  sets.flatMap fun set => Tag.pairs (Text.sortBy Tag.compareNames set)

/-- The number of sets that have a tag. -/
def carriers (sets : List (List Tag)) (t : Tag) : Nat := sets.countP t.mentioned

/-- Counts how often a pair meets. The sets with either tag are those with the one and those with
the other, less those with both. -/
def ofPair (sets : List (List Tag)) (met : List (Tag × Tag)) (p : Tag × Tag) : CoOccurrence :=
  let both := met.countP (samePair p)
  { first := p.1
    second := p.2
    count := both
    either := carriers sets p.1 + carriers sets p.2 - both }

/-- The co-occurrences in a corpus, the closest first. -/
def ofFeatures (features : List Feature) : List CoOccurrence :=
  let sets := tagSets features
  let met := meetings sets
  Text.sortBy compare ((distinctPairs met).map (ofPair sets met))

end CoOccurrence

end FeatureAudit
