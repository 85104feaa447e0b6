import Mathlib
import FeatureAudit.Analysis.Report
import FeatureAudit.Proofs.Tag.Order
import FeatureAudit.Proofs.Tag.Tally

/-!
# Co-occurrences are exact

Every two tags that hold together for a scenario besides backgrounds have one co-occurrence, and no
others have one (`countP_joins`). It counts the scenarios with both tags, against the scenarios
with either (`counts_of_mem`), and the co-occurrences stand by falling quotient, then by falling
count, then by the names put together (`pairwise_leads`). A report gives the co-occurrence of two
tags in any order and any spelling.

* Sorted tags ascend, so two tags are a pair of them at most once and always in one order
  (`countP_pairs`).
* The sets with either tag are counted by those with the one, the other and both
  (`countP_add_countP`).
* Comparing quotients crosswise is comparing them, since nothing is divided by zero
  (`compare_eq_compareQuotients`).
-/

set_option autoImplicit false

namespace FeatureAudit

/-- The scenarios besides backgrounds, each with its feature. -/
def Feature.scenes (features : List Feature) : List (Feature × Scenario) :=
  features.flatMap fun f => f.foreground.map fun s => (f, s)

namespace CoOccurrence

/-! ## What is counted -/

/-- The number of scenarios for which both tags hold. -/
def withBoth (features : List Feature) (t u : Tag) : Nat :=
  (Feature.scenes features).countP fun (f, s) =>
    t.mentioned (f.effectiveTags s) && u.mentioned (f.effectiveTags s)

/-- The number of scenarios for which at least one of two tags holds. -/
def withEither (features : List Feature) (t u : Tag) : Nat :=
  (Feature.scenes features).countP fun (f, s) =>
    t.mentioned (f.effectiveTags s) || u.mentioned (f.effectiveTags s)

/-- The exact quotient of the scenarios with both tags and those with either. -/
def quotient (e : CoOccurrence) : ℚ := e.count / e.either

/-- The names put together. -/
def names (e : CoOccurrence) : String := e.first.name ++ e.second.name

/-- Whether a co-occurrence may stand in front of another: its quotient is greater, or with equal
quotients its count, or with equal counts its names are not behind those of the other. -/
def Leads (e f : CoOccurrence) : Prop :=
  f.quotient < e.quotient ∨ f.quotient = e.quotient ∧
    (f.count < e.count ∨ f.count = e.count ∧ (Text.compareTexts e.names f.names).isLE = true)

theorem tagSets_eq (features : List Feature) :
    tagSets features = (Feature.scenes features).map fun (f, s) => f.effectiveTags s := by
  simp only [tagSets, Feature.scenes, List.map_flatMap, List.map_map]
  rfl

theorem nodup_of_mem_tagSets {features : List Feature} {set : List Tag}
    (h : set ∈ tagSets features) : (set.map Tag.folded).Nodup := by
  rw [tagSets_eq] at h
  obtain ⟨⟨f, s⟩, -, rfl⟩ := List.mem_map.1 h
  exact Tag.nodup_folded_distinct (f.tags ++ s.tags)

/-! ## Pairs in one set -/

/-- The folded names of a pair. -/
def pairKey (p : Tag × Tag) : String × String := (p.1.folded, p.2.folded)

theorem samePair_iff {p q : Tag × Tag} :
    samePair p q = true ↔ p.1.folded = q.1.folded ∧ p.2.folded = q.2.folded := by
  rw [samePair, Bool.and_eq_true, Tag.same_iff, Tag.same_iff]

theorem distinctPairs_eq_firstsBy (ps : List (Tag × Tag)) :
    distinctPairs ps = firstsBy pairKey ps := by
  induction ps with
  | nil => rfl
  | cons p ps ih => rw [distinctPairs, firstsBy, ih]; rfl

/-- A pair that occurs is one first pair. -/
theorem countP_distinctPairs (ps : List (Tag × Tag)) (p : Tag × Tag) :
    (distinctPairs ps).countP (samePair p) = if 0 < ps.countP (samePair p) then 1 else 0 := by
  rw [distinctPairs_eq_firstsBy]
  exact countP_firstsBy pairKey ps (pairKey p)

/-- The pairs of ascending tags ascend. -/
theorem before_of_mem_pairs {ts : List Tag} (h : Tag.Ascending ts) {p : Tag × Tag}
    (hp : p ∈ Tag.pairs ts) : p.1.Before p.2 :=
  Tag.rel_of_mem_pairs h hp

/-- Two tags are a pair of ascending tags once if both are mentioned, and not otherwise. -/
theorem countP_pairs {ts : List Tag} (h : Tag.Ascending ts) {t u : Tag} (htu : t.Before u) :
    (Tag.pairs ts).countP (samePair (t, u)) =
      if t.mentioned ts && u.mentioned ts then 1 else 0 := by
  induction ts with
  | nil => rfl
  | cons a ts ih =>
    obtain ⟨hhead, hrest⟩ := List.pairwise_cons.1 h
    have hfirst : ∀ v : Tag, v.mentioned (a :: ts) = (v.same a || v.mentioned ts) := fun v => rfl
    have hpairs : (ts.map fun b => (a, b)).countP (samePair (t, u)) =
        if t.same a then ts.countP u.same else 0 := by
      rw [List.countP_map]
      by_cases hta : t.same a
      · rw [if_pos hta]
        exact List.countP_congr fun b _ => by simp [samePair, hta]
      · rw [if_neg hta, List.countP_eq_zero]
        simp [samePair, hta]
    rw [Tag.pairs, List.countP_append, hpairs, ih hrest, hfirst, hfirst,
      Tag.Ascending.countP_same hrest]
    -- what comes before the head, or is the head, is not mentioned behind it
    by_cases hta : t.same a
    · have hfold := Tag.same_iff.1 hta
      have ht : t.mentioned ts = false :=
        Tag.mentioned_eq_false_of_forall_before hhead fun hat => hat.folded_ne hfold.symm
      have hua : u.same a = false := by
        rw [Bool.eq_false_iff]
        exact fun hua => htu.folded_ne (hfold.trans (Tag.same_iff.1 hua).symm)
      simp [hta, ht, hua]
    · by_cases hua : u.same a
      · have hbefore : t.Before a := htu.congr rfl (Tag.same_iff.1 hua)
        have ht : t.mentioned ts = false :=
          Tag.mentioned_eq_false_of_forall_before hhead hbefore.asymm
        simp [hta, ht]
      · simp [hta, hua]

/-! ## Pairs in all sets -/

section Sets

variable {sets : List (List Tag)} (hsets : ∀ set ∈ sets, (set.map Tag.folded).Nodup)

include hsets

theorem before_of_mem_meetings {p : Tag × Tag} (hp : p ∈ meetings sets) : p.1.Before p.2 := by
  obtain ⟨set, hset, hp⟩ := List.mem_flatMap.1 hp
  exact before_of_mem_pairs (Tag.ascending_sortBy (hsets set hset)) hp

/-- Two tags meet as often as sets have both. -/
theorem countP_meetings {t u : Tag} (htu : t.Before u) :
    (meetings sets).countP (samePair (t, u)) =
      sets.countP fun set => t.mentioned set && u.mentioned set := by
  induction sets with
  | nil => rfl
  | cons set sets ih =>
    obtain ⟨hset, hrest⟩ := List.forall_mem_cons.1 hsets
    have hmeet : meetings (set :: sets) =
        Tag.pairs (Text.sortBy Tag.compareNames set) ++ meetings sets := List.flatMap_cons ..
    rw [hmeet, List.countP_append, countP_pairs (Tag.ascending_sortBy hset) htu,
      Tag.mentioned_sortBy, Tag.mentioned_sortBy, ih hrest, List.countP_cons, Nat.add_comm]

end Sets

/-- Two tags of which one comes before the other are joined in this order only. -/
theorem joins_eq_samePair {e : CoOccurrence} (he : e.first.Before e.second) {t u : Tag}
    (htu : t.Before u) : e.joins t u = samePair (t, u) (e.first, e.second) := by
  have hback : (t.same e.second && u.same e.first) = false := by
    rw [Bool.eq_false_iff, ne_eq, Bool.and_eq_true, Tag.same_iff, Tag.same_iff]
    rintro ⟨ht, hu⟩
    exact (htu.congr ht hu).asymm he
  rw [joins, hback, Bool.or_false, samePair]

theorem joins_comm (e : CoOccurrence) (t u : Tag) : e.joins t u = e.joins u t := by
  rw [joins, joins, Bool.or_comm, Bool.and_comm, Bool.and_comm (t.same e.first)]

/-- No co-occurrence joins a tag with itself. -/
theorem joins_same {e : CoOccurrence} (he : e.first.Before e.second) {t u : Tag}
    (htu : t.folded = u.folded) : e.joins t u = false := by
  rw [Bool.eq_false_iff]
  intro hjoin
  simp only [joins, Bool.or_eq_true, Bool.and_eq_true, Tag.same_iff, ← htu] at hjoin
  rcases hjoin with ⟨h₁, h₂⟩ | ⟨h₂, h₁⟩
  · exact he.folded_ne (h₁.symm.trans h₂)
  · exact he.folded_ne (h₁.symm.trans h₂)

/-! ## The co-occurrences of a corpus -/

/-- The items with either property are counted by those with the one, the other and both. -/
theorem countP_add_countP {α : Type} (p q : α → Bool) (xs : List α) :
    xs.countP p + xs.countP q =
      (xs.countP fun a => p a || q a) + xs.countP fun a => p a && q a := by
  induction xs with
  | nil => rfl
  | cons a xs ih =>
    simp only [List.countP_cons]
    cases p a <;> cases q a <;> simp <;> omega

section Corpus

variable {features : List Feature} {e : CoOccurrence}

theorem withBoth_eq (features : List Feature) (t u : Tag) :
    withBoth features t u =
      (tagSets features).countP fun set => t.mentioned set && u.mentioned set := by
  rw [tagSets_eq, List.countP_map]
  rfl

theorem withEither_eq (features : List Feature) (t u : Tag) :
    withEither features t u =
      (tagSets features).countP fun set => t.mentioned set || u.mentioned set := by
  rw [tagSets_eq, List.countP_map]
  rfl

theorem withBoth_comm (features : List Feature) (t u : Tag) :
    withBoth features t u = withBoth features u t := by
  simp only [withBoth, Bool.and_comm]

theorem withBoth_le_withEither (features : List Feature) (t u : Tag) :
    withBoth features t u ≤ withEither features t u := by
  refine List.countP_mono_left fun _ _ h => ?_
  rw [Bool.or_eq_true]
  exact Or.inl (Bool.and_eq_true_iff.1 h).1

theorem mem_ofFeatures :
    e ∈ ofFeatures features ↔ ∃ p ∈ distinctPairs (meetings (tagSets features)),
      ofPair (tagSets features) (meetings (tagSets features)) p = e := by
  rw [ofFeatures, (Text.sortBy_perm _ _).mem_iff, List.mem_map]

theorem mem_of_mem_distinctPairs {ps : List (Tag × Tag)} {p : Tag × Tag}
    (hp : p ∈ distinctPairs ps) : p ∈ ps := by
  rw [distinctPairs_eq_firstsBy] at hp
  exact (firstsBy_sublist pairKey ps).subset hp

/-- The tag with the smaller name stands first. -/
theorem before_of_mem (he : e ∈ ofFeatures features) : e.first.Before e.second := by
  obtain ⟨p, hp, rfl⟩ := mem_ofFeatures.1 he
  have hmet := mem_of_mem_distinctPairs hp
  exact before_of_mem_meetings (fun _ => nodup_of_mem_tagSets) hmet

/-- A co-occurrence counts the scenarios with both tags and those with either, and there is one
with both. -/
theorem counts_of_mem (he : e ∈ ofFeatures features) :
    e.count = withBoth features e.first e.second ∧
      e.either = withEither features e.first e.second ∧ 0 < e.count := by
  have hbefore := before_of_mem he
  obtain ⟨p, hp, rfl⟩ := mem_ofFeatures.1 he
  have hcount : (meetings (tagSets features)).countP (samePair p) = withBoth features p.1 p.2 := by
    rw [withBoth_eq]
    exact countP_meetings (fun _ => nodup_of_mem_tagSets) hbefore
  refine ⟨hcount, ?_, ?_⟩
  · have hboth := countP_add_countP p.1.mentioned p.2.mentioned (tagSets features)
    change carriers (tagSets features) p.1 + carriers (tagSets features) p.2 -
      (meetings (tagSets features)).countP (samePair p) = withEither features p.1 p.2
    rw [hcount, carriers, carriers, hboth, withEither_eq, withBoth_eq, Nat.add_sub_cancel]
  · have hmem := mem_of_mem_distinctPairs hp
    exact List.countP_pos_iff.2 ⟨p, hmem, samePair_iff.2 ⟨rfl, rfl⟩⟩

theorem count_le_either_of_mem (he : e ∈ ofFeatures features) : e.count ≤ e.either := by
  obtain ⟨hcount, heither, -⟩ := counts_of_mem he
  rw [hcount, heither]
  exact withBoth_le_withEither features e.first e.second

theorem either_pos_of_mem (he : e ∈ ofFeatures features) : 0 < e.either :=
  (counts_of_mem he).2.2.trans_le (count_le_either_of_mem he)

theorem countP_joins_of_before {t u : Tag} (htu : t.Before u) :
    (ofFeatures features).countP (fun e => e.joins t u) =
      if 0 < withBoth features t u then 1 else 0 := by
  let sets := tagSets features
  have hsets : ∀ set ∈ sets, (set.map Tag.folded).Nodup := fun _ => nodup_of_mem_tagSets
  have hjoins : (ofFeatures features).countP (fun e => e.joins t u) =
      (distinctPairs (meetings sets)).countP (samePair (t, u)) := by
    rw [ofFeatures, (Text.sortBy_perm _ _).countP_eq, List.countP_map]
    refine List.countP_congr fun p hp => ?_
    have hp := before_of_mem_meetings hsets (mem_of_mem_distinctPairs hp)
    have hpair := joins_eq_samePair (e := ofPair sets (meetings sets) p) hp htu
    exact iff_of_eq (congrArg (· = true) hpair)
  rw [hjoins, countP_distinctPairs, withBoth_eq, countP_meetings hsets htu]

/-- Two different tags that hold together have one co-occurrence; no others have one. -/
theorem countP_joins (features : List Feature) (t u : Tag) :
    (ofFeatures features).countP (fun e => e.joins t u) =
      if t.same u = false ∧ 0 < withBoth features t u then 1 else 0 := by
  rcases t.before_trichotomy u with htu | htu | hut
  · rw [countP_joins_of_before htu]
    simp [htu.same_eq_false]
  · rw [if_neg (by simp [Tag.same_iff.2 htu]), List.countP_eq_zero]
    intro e he
    simp [joins_same (before_of_mem he) htu]
  · simp only [joins_comm _ t u, Tag.same_comm t u, withBoth_comm features t u]
    rw [countP_joins_of_before hut]
    simp [hut.same_eq_false]

/-! ## Their order -/

/-- The order of co-occurrences by their quotients, counts and names. -/
def compareQuotients (e f : CoOccurrence) : Ordering :=
  (Ord.compare f.quotient e.quotient).then <|
    (Text.compareNats f.count e.count).then (Text.compareTexts e.names f.names)

instance : Std.TransCmp compareQuotients :=
  have hquotient : Std.TransCmp fun e f : CoOccurrence => Ord.compare e.quotient f.quotient :=
    Text.transCmp_on quotient
  have hcount : Std.TransCmp fun e f : CoOccurrence => Text.compareNats e.count f.count :=
    Text.transCmp_on count
  Text.transCmp_then hquotient.opposite <|
    Text.transCmp_then hcount.opposite (Text.transCmp_on names)

/-- Quotients of positive numbers are compared crosswise. -/
theorem compare_eq_compareQuotients {e f : CoOccurrence} (he : 0 < e.either) (hf : 0 < f.either) :
    compare e f = compareQuotients e f := by
  have he' : (0 : ℚ) < e.either := Nat.cast_pos.2 he
  have hf' : (0 : ℚ) < f.either := Nat.cast_pos.2 hf
  have hlt : f.quotient < e.quotient ↔ f.count * e.either < e.count * f.either := by
    rw [quotient, quotient, div_lt_div_iff₀ hf' he']
    norm_cast
  have heq : f.quotient = e.quotient ↔ f.count * e.either = e.count * f.either := by
    rw [quotient, quotient, div_eq_div_iff hf'.ne' he'.ne']
    norm_cast
  have hcross : Text.compareNats (f.count * e.either) (e.count * f.either) =
      Ord.compare f.quotient e.quotient := by
    rw [Text.compareNats_eq_compare, LinearOrder.compare_eq_compareOfLessAndEq,
      LinearOrder.compare_eq_compareOfLessAndEq]
    simp only [compareOfLessAndEq, hlt, heq]
  rw [compare, compareQuotients, hcross]
  rfl

theorem leads_of_isLE {e f : CoOccurrence} (h : (compareQuotients e f).isLE = true) :
    Leads e f := by
  rw [compareQuotients, Ordering.isLE_then_iff_or, compare_lt_iff_lt, compare_eq_iff_eq] at h
  refine h.imp_right fun ⟨hquotient, h⟩ => ⟨hquotient, ?_⟩
  rwa [Ordering.isLE_then_iff_or, Text.compareNats_eq_compare, compare_lt_iff_lt,
    compare_eq_iff_eq] at h

/-- The co-occurrences stand in their order. -/
theorem pairwise_leads (features : List Feature) : (ofFeatures features).Pairwise Leads := by
  have hsort : ofFeatures features = Text.sortBy compareQuotients _ :=
    Text.sortBy_congr fun e he f hf => compare_eq_compareQuotients
      (either_pos_of_mem ((Text.sortBy_perm _ _).mem_iff.2 he))
      (either_pos_of_mem ((Text.sortBy_perm _ _).mem_iff.2 hf))
  rw [hsort]
  exact (Text.pairwise_sortBy compareQuotients _).imp leads_of_isLE

/-! ## Looking co-occurrences up -/

/-- A report gives a co-occurrence for two tags exactly if the co-occurrence is one of the corpus
and joins them. -/
theorem pair?_eq_some_iff (c : Concordance) {t u : Tag} :
    (Report.ofConcordance features c).pair? t u = some e ↔
      e ∈ ofFeatures features ∧ e.joins t u = true := by
  have hfind : (Report.ofConcordance features c).pair? t u =
      ((ofFeatures features).filter fun f => f.joins t u).head? := List.head?_filter.symm
  rw [hfind, ← List.mem_filter (p := fun f : CoOccurrence => f.joins t u)]
  constructor
  · exact List.mem_of_mem_head?
  · intro hmem
    -- at most one joins them, so the first is the one
    have hone : ((ofFeatures features).filter fun f => f.joins t u).length ≤ 1 := by
      rw [← List.countP_eq_length_filter, countP_joins]
      split <;> omega
    match hlist : (ofFeatures features).filter fun f => f.joins t u with
    | [] => simp [hlist] at hmem
    | [f] => simp_all
    | f :: g :: rest => simp [hlist] at hone

theorem quotient_bounds (he : e ∈ ofFeatures features) : 0 < e.quotient ∧ e.quotient ≤ 1 := by
  have hcount : (0 : ℚ) < e.count := Nat.cast_pos.2 (counts_of_mem he).2.2
  have heither : (0 : ℚ) < e.either := Nat.cast_pos.2 (either_pos_of_mem he)
  have hle : (e.count : ℚ) ≤ e.either := Nat.cast_le.2 (count_le_either_of_mem he)
  exact ⟨div_pos hcount heither, (div_le_one heither).2 hle⟩

end Corpus

/-- **Co-occurrences are exact.** Two tags have one co-occurrence if they are different and hold
together for a scenario besides backgrounds, and none otherwise. A co-occurrence counts the
scenarios with both tags and those with either, so that its quotient is positive and at most one.
The co-occurrences stand in order, and a report gives the one of two tags in both orders and in
every spelling. -/
theorem ofFeatures_exact (features : List Feature) :
    (∀ t u : Tag, (ofFeatures features).countP (fun e => e.joins t u) =
      if t.same u = false ∧ 0 < withBoth features t u then 1 else 0) ∧
    (∀ e ∈ ofFeatures features,
      e.first.same e.second = false ∧
      e.count = withBoth features e.first e.second ∧
      e.either = withEither features e.first e.second ∧
      0 < e.count ∧ e.count ≤ e.either ∧ 0 < e.quotient ∧ e.quotient ≤ 1) ∧
    (ofFeatures features).Pairwise Leads ∧
    (∀ e ∈ ofFeatures features, ∀ (c : Concordance) (t u : Tag),
      t.same e.first = true → u.same e.second = true →
        (Report.ofConcordance features c).pair? t u = some e ∧
        (Report.ofConcordance features c).pair? u t = some e) ∧
    ∀ (c : Concordance) (t u : Tag), t.same u = true ∨ withBoth features t u = 0 →
      (Report.ofConcordance features c).pair? t u = none := by
  refine ⟨countP_joins features, ?_, pairwise_leads features, ?_, ?_⟩
  · intro e he
    obtain ⟨hcount, heither, hpos⟩ := counts_of_mem he
    obtain ⟨hquotient, hone⟩ := quotient_bounds he
    exact ⟨(before_of_mem he).same_eq_false, hcount, heither, hpos, count_le_either_of_mem he,
      hquotient, hone⟩
  · intro e he c t u ht hu
    have hjoin : e.joins t u = true := by rw [joins, ht, hu]; rfl
    have hback : e.joins u t = true := by rw [joins_comm, hjoin]
    exact ⟨(pair?_eq_some_iff c).2 ⟨he, hjoin⟩, (pair?_eq_some_iff c).2 ⟨he, hback⟩⟩
  · intro c t u h
    have hcount := countP_joins features t u
    rw [if_neg (by grind), List.countP_eq_zero] at hcount
    exact List.find?_eq_none.2 hcount

/-- Two documents that mention a tag in two spellings, one of them on a background. -/
def checkout : List Feature :=
  [{ Feature.blank "checkout.feature" with
      tags := [.named "@Smoke"]
      scenarios :=
        [⟨"", .background, 2, "", [.named "@setup"], [], []⟩,
         ⟨"pay", .scenario, 4, "", [.named "@api", .named "@API"], [], []⟩,
         ⟨"leave", .scenario, 6, "", [.named "@smoke"], [], []⟩] },
   { Feature.blank "refund.feature" with
      scenarios := [⟨"refund", .rule, 2, "", [.named "@API"], [], []⟩] }]

theorem ofFeatures_exact_checkout :
    let e : CoOccurrence := ⟨.named "@api", .named "@Smoke", 1, 3⟩
    ofFeatures checkout = [e] ∧
      1 = withBoth checkout (.named "@api") (.named "@Smoke") ∧
      3 = withEither checkout (.named "@api") (.named "@Smoke") ∧
      ∀ c : Concordance, (Report.ofConcordance checkout c).pair? (.named "@SMOKE") (.named "@Api") =
        some e := by
  intro e
  have hlist : ofFeatures checkout = [e] := by cbv
  have he : e ∈ ofFeatures checkout := hlist ▸ List.mem_singleton_self e
  obtain ⟨-, hcounts, -, hpairs, -⟩ := ofFeatures_exact checkout
  obtain ⟨-, hcount, heither, -⟩ := hcounts e he
  exact ⟨hlist, hcount, heither, fun c =>
    (hpairs e he c (.named "@Api") (.named "@SMOKE") (by decide +kernel) (by decide +kernel)).2⟩

end CoOccurrence

end FeatureAudit
