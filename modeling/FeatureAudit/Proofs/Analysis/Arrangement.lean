import FeatureAudit.Proofs.Analysis.CoOccurrence
import FeatureAudit.Proofs.Analysis.Similar
import FeatureAudit.Proofs.Tag.Congruence
import FeatureAudit.Proofs.Tag.Spelling

/-!
# The order of a corpus leaves no trace in its statistics

A corpus can be read in any order. The order decides which spelling of a tag comes first and where
the tag stands in a tally, but nothing that is counted: a concordance counts the tag lists that
mention a tag (`Concordance.count_ofFeatures`), each of its views lists every tag that belongs there
once, and for all arrangements of the features the views show the same tags one after the other
(`Concordance.statistics_rearranged`).

* `Tag.compareIn_eq_compareFolded`: where every tag has one entry, the spelling never decides
  between two entries, so the order of the views is a strict order of folded names.
* `Concordance.map_folded_entries`, `Concordance.map_folded_byFrequency`: hence a view is told by the
  folded names and counts alone.
* `Tag.key_eq_keyOfFolded`: tags that carry the sign are compared by their folded names, so which
  tags are close to each other is told by the view as well (`Concordance.map_folded_similar`).
* `CoOccurrence.ofFeatures_rearranged`: the sets of tags are the same in some order, and so are the
  pairs that meet in them.
-/

set_option autoImplicit false

namespace FeatureAudit

/-- The category of a folded name; the first list that has it decides. -/
def Taxonomy.categoryOfFolded (taxonomy : Taxonomy) (folded : String) : Tag.Category :=
  if folded ∈ taxonomy.priority then .priority
  else if folded ∈ taxonomy.type then .type
  else if folded ∈ taxonomy.status then .status
  else .other

/-! ## Tags by their folded names -/

namespace Tag

/-- Whether two folded names are so close that one may be a misspelling of the other. -/
def closeNames (a b : String) : Bool :=
  EditDistance.distance (keyOfFolded a) (keyOfFolded b) ≤ 2

theorem similar_eq_closeNames (t u : Tag) : t.similar u = closeNames t.folded u.folded := by
  rw [similar, distance, key_eq_keyOfFolded, key_eq_keyOfFolded, closeNames]

/-- The order of entries by category, then by folded name. -/
def compareFolded (taxonomy : Taxonomy) (a b : String × Int) : Ordering :=
  (Text.compareNats (taxonomy.categoryOfFolded a.1).rank (taxonomy.categoryOfFolded b.1).rank).then
    (Text.compareTexts a.1 b.1)

/-- The order of entries by falling count, then by folded name. -/
def compareCounts (a b : String × Int) : Ordering :=
  (Text.compareInts b.2 a.2).then (Text.compareTexts a.1 b.1)

instance (taxonomy : Taxonomy) : Std.TransCmp (compareFolded taxonomy) :=
  Text.transCmp_then (Text.transCmp_on fun a : String × Int => (taxonomy.categoryOfFolded a.1).rank)
    (Text.transCmp_on Prod.fst)

instance : Std.TransCmp compareCounts :=
  have hcount : Std.TransCmp fun a b : String × Int => Text.compareInts a.2 b.2 :=
    Text.transCmp_on Prod.snd
  Text.transCmp_then hcount.opposite (Text.transCmp_on Prod.fst)

theorem compareNames_eq_compareTexts {t u : Tag} (h : t.folded = u.folded → t = u) :
    compareNames t u = Text.compareTexts t.folded u.folded := by
  by_cases heq : t.folded = u.folded
  · rw [h heq]
    have hself : ∀ s : String, Text.compareTexts s s = .eq := fun s => Std.ReflCmp.compare_self
    rw [compareNames, hself, hself, Ordering.eq_then]
  · have hne : Text.compareTexts t.folded u.folded ≠ .eq :=
      fun hcmp => heq (Std.LawfulEqCmp.eq_of_compare hcmp)
    rw [compareNames]
    cases hcmp : Text.compareTexts t.folded u.folded with
    | eq => exact absurd hcmp hne
    | lt => rfl
    | gt => rfl

theorem compareIn_eq_compareFolded (taxonomy : Taxonomy) {e f : Tag × Int}
    (h : e.1.folded = f.1.folded → e = f) :
    compareIn taxonomy e.1 f.1 =
      compareFolded taxonomy (e.1.folded, e.2) (f.1.folded, f.2) := by
  have hnames : compareNames e.1 f.1 = Text.compareTexts e.1.folded f.1.folded :=
    compareNames_eq_compareTexts fun heq => by rw [h heq]
  rw [compareIn, hnames]
  rfl

end Tag

/-! ## Views by their folded names -/

namespace Concordance

/-- What an entry says, without regard to spelling. -/
def foldedEntry (e : Tag × Int) : String × Int := (e.1.folded, e.2)

/-- What is close to a tag, without regard to spelling. -/
def foldedNeighbours (e : Tag × List Tag) : String × List String :=
  (e.1.folded, e.2.map Tag.folded)

/-- The names of a list that are close to a name but not the same. -/
def namesNear (names : List String) (a : String) : List String :=
  names.filter fun b => !(a == b) && Tag.closeNames a b

/-- Every folded name that is close to another one, with those that are close to it. -/
def similarNames (names : List String) : List (String × List String) :=
  (firstsBy id (((Tag.pairs names).filter fun p => Tag.closeNames p.1 p.2).flatMap
    fun p => [p.1, p.2])).map fun a => (a, namesNear names a)

section Views

variable {c c' : Concordance}

theorem map_folded_entries (h : c.OneEntryEach) (h' : c'.OneEntryEach)
    (htaxonomy : c.taxonomy = c'.taxonomy)
    (hperm : (c.counts.map foldedEntry).Perm (c'.counts.map foldedEntry)) :
    c.entries.map foldedEntry = c'.entries.map foldedEntry := by
  rw [entries, entries, ← htaxonomy]
  refine Text.map_sortBy_of_perm (Tag.compareFolded c.taxonomy) ?_ ?_ hperm ?_
  · intro e he f hf
    exact Tag.compareIn_eq_compareFolded c.taxonomy (h.eq_of_folded he hf)
  · intro e he f hf
    exact Tag.compareIn_eq_compareFolded c.taxonomy (h'.eq_of_folded he hf)
  · intro a ha b hb htie
    obtain ⟨e, he, rfl⟩ := List.mem_map.1 ha
    obtain ⟨f, hf, rfl⟩ := List.mem_map.1 hb
    have hnames : Text.compareTexts e.1.folded f.1.folded = .eq :=
      (Ordering.then_eq_eq.1 htie).2
    rw [h.eq_of_folded he hf (Std.LawfulEqCmp.eq_of_compare hnames)]

theorem map_folded_byFrequency (h : c.OneEntryEach) (h' : c'.OneEntryEach)
    (hperm : (c.counts.map foldedEntry).Perm (c'.counts.map foldedEntry)) :
    c.byFrequency.map Tag.folded = c'.byFrequency.map Tag.folded := by
  have hcmp : ∀ {d : Concordance}, d.OneEntryEach → ∀ e ∈ d.counts, ∀ f ∈ d.counts,
      (Text.compareInts f.2 e.2).then (Tag.compareNames e.1 f.1) =
        Tag.compareCounts (foldedEntry e) (foldedEntry f) := by
    intro d hd e he f hf
    rw [Tag.compareNames_eq_compareTexts fun heq => by rw [hd.eq_of_folded he hf heq]]
    rfl
  have hsorted := Text.map_sortBy_of_perm _ (hcmp h) (hcmp h') hperm (by
    intro a _ b _ htie
    obtain ⟨hcount, hname⟩ := Ordering.then_eq_eq.1 htie
    exact Prod.ext (Std.LawfulEqCmp.eq_of_compare hname)
      (Std.LawfulEqCmp.eq_of_compare hcount).symm)
  have hfolded := congrArg (List.map Prod.fst) hsorted
  rw [List.map_map, List.map_map] at hfolded
  rw [byFrequency, byFrequency, List.map_map, List.map_map]
  exact hfolded

theorem map_folded_tags (c : Concordance) :
    c.tags.map Tag.folded = (c.entries.map foldedEntry).map Prod.fst := by
  rw [tags, List.map_map, List.map_map]
  rfl

theorem map_folded_withCount (c : Concordance) (p : Int → Bool) :
    (c.withCount p).map Tag.folded =
      ((c.entries.map foldedEntry).filter fun e => p e.2).map Prod.fst := by
  rw [withCount, List.filter_map, List.map_map, List.map_map]
  rfl

/-- Which tags are close to each other is told by the folded names in their order. -/
theorem map_folded_similar (hentries : c.OneEntryEach) :
    c.similar.map foldedNeighbours = similarNames (c.tags.map Tag.folded) := by
  have hsuspects : (suspects c.tags).map Tag.folded =
      firstsBy id (((Tag.pairs (c.tags.map Tag.folded)).filter fun p =>
        Tag.closeNames p.1 p.2).flatMap fun p => [p.1, p.2]) := by
    have hclose : ((Tag.pairs c.tags).filter fun p => p.1.similar p.2) =
        (Tag.pairs c.tags).filter fun p => Tag.closeNames p.1.folded p.2.folded :=
      List.filter_congr fun p _ => Tag.similar_eq_closeNames p.1 p.2
    rw [suspects, Tag.distinct_eq_firstsBy, map_firstsBy, bothWays, hclose, Tag.pairs_map,
      List.filter_map, List.map_flatMap, List.map_flatMap, List.flatMap_map]
    rfl
  have hneighbours : ∀ t : Tag, (neighbours c.tags t).map Tag.folded =
      namesNear (c.tags.map Tag.folded) t.folded := by
    intro t
    rw [neighbours, namesNear, List.filter_map]
    refine congrArg _ (List.filter_congr fun u _ => ?_)
    rw [Tag.similar_eq_closeNames]
    rfl
  rw [similarNames, ← hsuspects, hentries.similar_eq, List.map_map, List.map_map]
  refine List.map_congr_left fun t _ => ?_
  rw [Function.comp_apply, Function.comp_apply, foldedNeighbours, hneighbours t]

end Views

/-! ## Concordances of the same features -/

/-- Whether the views of a concordance list the tags of a corpus, each tag that belongs there once:
all tags by category and by frequency, and those whose count has a property, such as to be at least
or at most or more than some number, or to be one. -/
structure ListsOnce (c : Concordance) (features : List Feature) : Prop where
  count : ∀ t, c.count t = Feature.listsWith features t
  tags : ∀ t : Tag, c.tags.countP t.same = if 0 < Feature.listsWith features t then 1 else 0
  byFrequency : ∀ t : Tag, c.byFrequency.countP t.same =
    if 0 < Feature.listsWith features t then 1 else 0
  withCount : ∀ (p : Int → Bool) (t : Tag), (c.withCount p).countP t.same =
    if 0 < Feature.listsWith features t ∧ p (Feature.listsWith features t) = true then 1 else 0

/-- Whether two concordances count the same and their views show the same tags one by one. -/
structure SameViews (c c' : Concordance) : Prop where
  count : ∀ t, c.count t = c'.count t
  tags : c.tags.map Tag.folded = c'.tags.map Tag.folded
  byFrequency : c.byFrequency.map Tag.folded = c'.byFrequency.map Tag.folded
  withCount : ∀ p : Int → Bool,
    (c.withCount p).map Tag.folded = (c'.withCount p).map Tag.folded

theorem listsOnce_ofFeatures (taxonomy : Taxonomy) (features : List Feature) :
    (ofFeatures taxonomy features).ListsOnce features where
  count := count_ofFeatures taxonomy features
  tags := countP_tags taxonomy features
  byFrequency := countP_byFrequency taxonomy features
  withCount := countP_withCount taxonomy features

section Rearranged

variable {features features' : List Feature} (h : features.Perm features')
include h

theorem mentions_rearranged : (mentions features).Perm (mentions features') :=
  (h.flatMap_right Feature.tagLists).flatMap_right Tag.distinct

theorem sameViews_rearranged (taxonomy : Taxonomy) :
    (ofFeatures taxonomy features).SameViews (ofFeatures taxonomy features') := by
  have hone := oneEntryEach_ofFeatures taxonomy
  have hcounts : ((ofFeatures taxonomy features).counts.map foldedEntry).Perm
      ((ofFeatures taxonomy features').counts.map foldedEntry) :=
    Tag.Tally.ofTags_of_perm (mentions_rearranged h)
  have hentries := map_folded_entries (hone features) (hone features') rfl hcounts
  constructor
  case count =>
    intro t
    rw [count_ofFeatures, count_ofFeatures, Feature.listsWith, Feature.listsWith,
      (h.flatMap_right Feature.tagLists).countP_eq]
  case tags => rw [map_folded_tags, map_folded_tags, hentries]
  case byFrequency => exact map_folded_byFrequency (hone features) (hone features') hcounts
  case withCount =>
    intro p
    rw [map_folded_withCount, map_folded_withCount, hentries]

theorem similar_rearranged (taxonomy : Taxonomy) :
    (ofFeatures taxonomy features).similar.map foldedNeighbours =
      (ofFeatures taxonomy features').similar.map foldedNeighbours := by
  rw [map_folded_similar (oneEntryEach_ofFeatures ..),
    map_folded_similar (oneEntryEach_ofFeatures ..), (sameViews_rearranged h taxonomy).tags]

end Rearranged

end Concordance

/-! ## Co-occurrences -/

namespace CoOccurrence

/-- What a co-occurrence says, without regard to spelling: its tags, its counts and the coefficient
they give. -/
def foldedEntry (e : CoOccurrence) : (String × String) × Nat × Nat × Float :=
  ((e.first.folded, e.second.folded), e.count, e.either, e.coefficient)

/-- What the co-occurrence of two folded names says, from the sets of tags and the pairs that meet
in them. -/
def ofNames (sets : List (List Tag)) (met : List (Tag × Tag)) (k : String × String) :
    (String × String) × Nat × Nat × Float :=
  let both := (met.map pairKey).count k
  let either := sets.countP (fun set => k.1 ∈ set.map Tag.folded) +
    sets.countP (fun set => k.2 ∈ set.map Tag.folded) - both
  (k, both, either, Decimal.nearest both either)

theorem foldedEntry_ofPair (sets : List (List Tag)) (met : List (Tag × Tag)) (p : Tag × Tag) :
    foldedEntry (ofPair sets met p) = ofNames sets met (pairKey p) := by
  have hboth : met.countP (samePair p) = (met.map pairKey).count (pairKey p) :=
    countP_key pairKey met (pairKey p)
  have hcarriers : ∀ t : Tag, carriers sets t =
      sets.countP fun set => t.folded ∈ set.map Tag.folded := by
    intro t
    refine List.countP_congr fun set _ => ?_
    rw [Tag.mentioned_iff, decide_eq_true_eq]
  simp only [foldedEntry, ofPair, ofNames, coefficient, hboth, hcarriers]
  rfl

/-- Features in another order have the same pairs of tags, with the same counts and coefficients. -/
theorem ofFeatures_rearranged {features features' : List Feature} (h : features.Perm features') :
    ((ofFeatures features).map foldedEntry).Perm ((ofFeatures features').map foldedEntry) := by
  have hsets : (tagSets features).Perm (tagSets features') := h.flatMap_right _
  have hmet : (meetings (tagSets features)).Perm (meetings (tagSets features')) :=
    hsets.flatMap_right _
  have hnames : ofNames (tagSets features) (meetings (tagSets features)) =
      ofNames (tagSets features') (meetings (tagSets features')) := by
    funext k
    simp only [ofNames, (hmet.map pairKey).count_eq, hsets.countP_eq]
  have hentries : ∀ fs : List Feature, ((ofFeatures fs).map foldedEntry).Perm
      (((distinctPairs (meetings (tagSets fs))).map pairKey).map
        (ofNames (tagSets fs) (meetings (tagSets fs)))) := by
    intro fs
    rw [ofFeatures, List.map_map]
    refine ((Text.sortBy_perm _ _).map foldedEntry).trans (.of_eq ?_)
    rw [List.map_map]
    exact List.map_congr_left fun p _ => foldedEntry_ofPair _ _ p
  refine (hentries features).trans (.trans ?_ (hentries features').symm)
  rw [hnames, distinctPairs_eq_firstsBy, distinctPairs_eq_firstsBy]
  exact (perm_map_firstsBy pairKey hmet).map _

end CoOccurrence

/-! ## All statistics -/

namespace Concordance

/-- **The order of a corpus leaves no trace in its statistics.** A concordance counts the tag lists
that mention a tag, and its views list each tag that belongs there once. For features in another
order the counts are the same and the views show the same tags one after the other; the same tags
are close to each other, each with the same tags after it; and the same tags co-occur, with the same
counts and coefficients. -/
theorem statistics_rearranged (taxonomy : Taxonomy) {features features' : List Feature}
    (h : features.Perm features') :
    (ofFeatures taxonomy features).ListsOnce features ∧
      (ofFeatures taxonomy features).SameViews (ofFeatures taxonomy features') ∧
      (ofFeatures taxonomy features).similar.map foldedNeighbours =
        (ofFeatures taxonomy features').similar.map foldedNeighbours ∧
      ((CoOccurrence.ofFeatures features).map CoOccurrence.foldedEntry).Perm
        ((CoOccurrence.ofFeatures features').map CoOccurrence.foldedEntry) :=
  ⟨listsOnce_ofFeatures taxonomy features, sameViews_rearranged h taxonomy,
    similar_rearranged h taxonomy, CoOccurrence.ofFeatures_rearranged h⟩

/-- A document with a tag and a misspelling of it. -/
def fruit : Feature :=
  ⟨"fruit.feature", "Fruit", "", [.named "@Smoke"],
    [⟨"weigh", .scenario, 3, "", [.named "@smok", .named "@api"], [], []⟩], []⟩

/-- A document with the same tags in other spellings. -/
def bread : Feature :=
  ⟨"bread.feature", "Bread", "", [],
    [⟨"bake", .scenario, 2, "", [.named "@API", .named "@SMOKE"], [], []⟩], []⟩

theorem statistics_rearranged_stalls :
    [fruit, bread].Perm [bread, fruit] ∧
      (ofFeatures .standard [fruit, bread]).counts.map (fun e => (e.1.name, e.2)) =
        [("@Smoke", 2), ("@smok", 1), ("@api", 2)] ∧
      (ofFeatures .standard [bread, fruit]).counts.map (fun e => (e.1.name, e.2)) =
        [("@API", 2), ("@SMOKE", 2), ("@smok", 1)] ∧
      (ofFeatures .standard [fruit, bread]).SameViews (ofFeatures .standard [bread, fruit]) ∧
      (ofFeatures .standard [fruit, bread]).similar.map foldedNeighbours =
        (ofFeatures .standard [bread, fruit]).similar.map foldedNeighbours ∧
      ((CoOccurrence.ofFeatures [fruit, bread]).map CoOccurrence.foldedEntry).Perm
        ((CoOccurrence.ofFeatures [bread, fruit]).map CoOccurrence.foldedEntry) := by
  have hperm : [fruit, bread].Perm [bread, fruit] := .swap ..
  obtain ⟨-, hviews, hsimilar, hpairs⟩ := statistics_rearranged .standard hperm
  exact ⟨hperm, by decide +kernel, by decide +kernel, hviews, hsimilar, hpairs⟩

end Concordance

end FeatureAudit
