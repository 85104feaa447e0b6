import FeatureAudit.Feature
import FeatureAudit.Tag.Tally
import FeatureAudit.Tag.Taxonomy
import FeatureAudit.Text.Search

/-!
# Concordance

How often each tag is mentioned in a corpus. A tag list counts a tag once however often it repeats
it. Views are sorted by the taxonomy, so that they depend on the order of the corpus only in the
spelling they show.
-/

set_option autoImplicit false

namespace FeatureAudit

/-- The counts of tags, with the taxonomy that sorts them. -/
structure Concordance where
  /-- The count of every tag, in order of first mention. -/
  counts : Tag.Tally
  /-- The taxonomy. -/
  taxonomy : Taxonomy

namespace Concordance

/-! ## Building -/

/-- The mentions in a corpus: every tag list of every feature, each tag of a list once. -/
def mentions (features : List Feature) : List Tag :=
  (features.flatMap Feature.tagLists).flatMap Tag.distinct

/-- The concordance of a corpus. -/
def ofFeatures (taxonomy : Taxonomy) (features : List Feature) : Concordance :=
  ⟨Tag.Tally.ofTags (mentions features), taxonomy⟩

/-- The concordance of counts; counts of the same tag are added up. -/
def ofCounts (taxonomy : Taxonomy) (counts : List (Tag × Int)) : Concordance :=
  ⟨counts.foldl (fun tally (t, n) => tally.add t n) [], taxonomy⟩

/-- Why raw counts make no concordance. -/
inductive Fault where
  /-- A name is no tag. -/
  | badTag (fault : Tag.Fault)
  /-- A value is no count. -/
  | badCount (fault : Value.NumberFault)
  deriving DecidableEq, Repr

/-- A tag with its count, from a raw name and a value. -/
def readCount (entry : Value × Value) : Except Fault (Tag × Int) := do
  let tag ← (Tag.ofRaw entry.1.name?).mapError .badTag
  let count ← entry.2.asCount.mapError .badCount
  return (tag, count)

/-- The concordance of raw names with their counts. -/
def ofRaws (taxonomy : Taxonomy) (raws : List (Value × Value)) : Except Fault Concordance :=
  (raws.mapM readCount).map (ofCounts taxonomy)

/-- Gives a raw name a value: in place if the same key is there, which is kept, at the end
otherwise. -/
def assign (raws : List (Value × Value)) (entry : Value × Value) : List (Value × Value) :=
  if raws.any fun e => e.1.sameKey entry.1 then
    raws.map fun e => if e.1.sameKey entry.1 then (e.1, entry.2) else e
  else raws ++ [entry]

/-- The concordance of raw names that may be repeated; the last count of a key is taken. -/
def ofAssignments (taxonomy : Taxonomy) (raws : List (Value × Value)) :
    Except Fault Concordance := ofRaws taxonomy (raws.foldl assign [])

/-! ## Looking up -/

/-- The count of a tag. -/
def count (c : Concordance) (t : Tag) : Int := c.counts.count t

/-- Whether a tag is mentioned. -/
def has (c : Concordance) (t : Tag) : Bool := c.counts.has t

/-- The number of tags. -/
def size (c : Concordance) : Nat := c.counts.length

/-- The sum of all counts. -/
def total (c : Concordance) : Int := c.counts.foldl (fun n e => n + e.2) 0

/-! ## Views -/

/-- The entries by category, then by name. -/
def entries (c : Concordance) : Tag.Tally :=
  Text.sortBy (fun e f => Tag.compareIn c.taxonomy e.1 f.1) c.counts

/-- The counts under the names of their tags, in the order of the entries. -/
def nameMap (c : Concordance) : List (Value × Value) :=
  (c.entries.map fun e => (.text e.1.name, .integer e.2)).foldl assign []

/-- The tags by category, then by name. -/
def tags (c : Concordance) : List Tag := c.entries.map Prod.fst

/-- The tags by falling count, then by name. -/
def byFrequency (c : Concordance) : List Tag :=
  (Text.sortBy (fun e f => (Text.compareInts f.2 e.2).then (Tag.compareNames e.1 f.1))
    c.counts).map Prod.fst

/-- The tags whose count has a property. -/
def withCount (c : Concordance) (p : Int → Bool) : List Tag :=
  (c.entries.filter fun e => p e.2).map Prod.fst

/-- The tags that are used once. -/
def orphaned (c : Concordance) : List Tag := c.withCount fun n => n == 1

/-- The part of a category. -/
def ofCategory (c : Concordance) (category : Tag.Category) : Concordance :=
  { c with counts := c.counts.filter fun e => c.taxonomy.categoryOf e.1 == category }

/-- Lists a tag under another: behind those listed there, or in a new entry at the end. -/
def enter (entered : List (Tag × List Tag)) (d : Tag × Tag) : List (Tag × List Tag) :=
  if entered.any fun e => d.1.same e.1 then
    entered.map fun e => if d.1.same e.1 then (e.1, e.2 ++ [d.2]) else e
  else entered ++ [(d.1, [d.2])]

/-- Lists two tags under each other. -/
def enterBoth (entered : List (Tag × List Tag)) (p : Tag × Tag) : List (Tag × List Tag) :=
  enter (enter entered p) (p.2, p.1)

/-- Every tag that is close to another one, with those that are close to it. Every pair of tags is
looked at once; what is listed under a tag is sorted at the end. -/
def similar (c : Concordance) : List (Tag × List Tag) :=
  let close := (Tag.pairs c.tags).filter fun p => p.1.similar p.2
  (close.foldl enterBoth []).map fun e => (e.1, Text.sortBy (Tag.compareIn c.taxonomy) e.2)

/-- The concordance in a line. -/
def summary (c : Concordance) : String :=
  "TagConcordance[uniqueTags=" ++ toString c.size ++ ", totalOccurrences=" ++ toString c.total ++
    "]"

end Concordance

end FeatureAudit
