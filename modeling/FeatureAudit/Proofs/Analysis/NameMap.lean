import FeatureAudit.Proofs.Analysis.Concordance
import FeatureAudit.Proofs.Tag.Name
import FeatureAudit.Proofs.Traversal

/-!
# Counts under names

A concordance writes its counts under the names of its tags, and reads counts under raw names. To add
a count changes that of its tag and no other (`Tag.Tally.count_add`), so what is read gives every tag
the sum of the counts under its raw names (`count_ofCounts`). Tags that are not the same have different
names, so nothing is lost in writing (`OneEntryEach.nameMap_eq`), and each name that is written makes
its own tag again (`OneEntryEach.ofRaws_nameMap`): what is written is read back, spelling and all
(`nameMap_roundTrip`).
-/

set_option autoImplicit false

namespace FeatureAudit.Concordance

/-! ## Counts of tags -/

section Counts

variable (taxonomy : Taxonomy) (es : List (Tag × Int))

theorem ofCounts_concat (e : Tag × Int) : (ofCounts taxonomy (es ++ [e])).counts =
    (ofCounts taxonomy es).counts.add e.1 e.2 := by
  rw [ofCounts, List.foldl_append]
  rfl

/-- Counts of the same tag are added up. -/
theorem count_ofCounts (t : Tag) : (ofCounts taxonomy es).count t =
    ((es.filter fun e => t.same e.1).map Prod.snd).sum := by
  induction es using List.reverseRecOn with
  | nil => rfl
  | append_singleton es e ih =>
    rw [count] at ih ⊢
    rw [ofCounts_concat, Tag.Tally.count_add, ih, List.filter_append, List.map_append,
      List.sum_append]
    by_cases hsame : t.same e.1 <;> simp [hsame]

theorem has_ofCounts (t : Tag) : (ofCounts taxonomy es).has t = es.any fun e => t.same e.1 := by
  induction es using List.reverseRecOn with
  | nil => rfl
  | append_singleton es e ih =>
    rw [has] at ih ⊢
    rw [ofCounts_concat, Tag.Tally.has_add, ih, List.any_append, List.any_cons, List.any_nil,
      Bool.or_false]

theorem total_ofCounts : (ofCounts taxonomy es).total = (es.map Prod.snd).sum := by
  rw [total_eq_sum]
  induction es using List.reverseRecOn with
  | nil => rfl
  | append_singleton es e ih =>
    rw [ofCounts_concat, Tag.Tally.sum_add, ih, List.map_append, List.sum_append, List.map_singleton,
      List.sum_singleton]

variable {es}

/-- Counts of different tags are kept as they stand. -/
theorem counts_ofCounts_of_nodup (h : (es.map fun e => e.1.folded).Nodup) :
    (ofCounts taxonomy es).counts = es := by
  induction es using List.reverseRecOn with
  | nil => rfl
  | append_singleton es e ih =>
    rw [List.map_append, List.nodup_append'] at h
    obtain ⟨hes, -, hdisjoint⟩ := h
    have hnew : (ofCounts taxonomy es).counts.has e.1 = false := by
      rw [ih hes, Bool.eq_false_iff, ne_eq, Tag.Tally.has_iff]
      exact fun hmem => hdisjoint hmem (List.mem_singleton_self _)
    rw [ofCounts_concat, Tag.Tally.add_of_has_eq_false hnew, ih hes]

end Counts

variable {c c' : Concordance}

theorem same_of_get?_eq_some {t : Tag} {e : Tag × Int} (h : c.counts.get? t = some e) :
    t.same e.1 = true := by
  have hfound := List.find?_some h
  exact hfound

theorem OneEntryEach.get?_eq_some_iff (h : c.OneEntryEach) {t : Tag} {e : Tag × Int} :
    c.counts.get? t = some e ↔ e ∈ c.counts ∧ t.same e.1 = true := by
  constructor
  · intro hget
    exact ⟨List.mem_of_find?_eq_some hget, same_of_get?_eq_some hget⟩
  · rintro ⟨he, hsame⟩
    have hhas : (c.counts.get? t).isSome = true := List.find?_isSome.2 ⟨e, he, hsame⟩
    obtain ⟨f, hf⟩ := Option.isSome_iff_exists.1 hhas
    have heq : e.1.folded = f.1.folded :=
      (Tag.same_iff.1 hsame).symm.trans (Tag.same_iff.1 (same_of_get?_eq_some hf))
    rw [h.eq_of_folded he (List.mem_of_find?_eq_some hf) heq]
    exact hf

/-- A tag has the same entry in whatever order the entries stand. -/
theorem OneEntryEach.get?_eq_of_perm (h : c.OneEntryEach) (hperm : c'.counts.Perm c.counts)
    (t : Tag) : c'.counts.get? t = c.counts.get? t := by
  have h' : c'.OneEntryEach := (hperm.map _).nodup_iff.2 h
  ext e
  rw [h'.get?_eq_some_iff, h.get?_eq_some_iff, hperm.mem_iff]

/-! ## Counts under raw names -/

/-- Counts under raw names as values. -/
def rawCounts (raws : List (String × Int)) : List (Value × Value) :=
  raws.map fun e => (.text e.1, .integer e.2)

/-- The tag of a raw name; a name that makes none is taken as it stands. -/
def tagOf (raw : String) : Tag := (Tag.of? raw).getD (.named raw)

variable {raws : List (String × Int)}

/-- Different names keep their counts. -/
theorem foldl_assign_rawCounts (h : (raws.map Prod.fst).Nodup) :
    (rawCounts raws).foldl assign [] = rawCounts raws := by
  induction raws using List.reverseRecOn with
  | nil => rfl
  | append_singleton raws e ih =>
    rw [List.map_append, List.nodup_append'] at h
    obtain ⟨hraws, -, hdisjoint⟩ := h
    have hcons : rawCounts (raws ++ [e]) = rawCounts raws ++ [(.text e.1, .integer e.2)] :=
      List.map_append
    have hnew : (rawCounts raws).any (fun v => v.1.sameKey (.text e.1)) = false := by
      rw [List.any_eq_false]
      intro v hv hkey
      obtain ⟨f, hf, rfl⟩ := List.mem_map.1 hv
      have hname : f.1 = e.1 := eq_of_beq hkey
      exact hdisjoint (hname ▸ List.mem_map_of_mem hf) (List.mem_singleton_self _)
    rw [hcons, List.foldl_append, ih hraws, List.foldl_cons, List.foldl_nil, assign, hnew,
      if_neg Bool.false_ne_true]

/-- Counts under raw names that all make a tag are the counts of these tags. -/
theorem ofRaws_rawCounts (taxonomy : Taxonomy) (h : ∀ e ∈ raws, Tag.of? e.1 ≠ none) :
    ofRaws taxonomy (rawCounts raws) =
      .ok (ofCounts taxonomy (raws.map fun e => (tagOf e.1, e.2))) := by
  have hread : ∀ e ∈ raws,
      readCount (.text e.1, .integer e.2) = .ok (tagOf e.1, e.2) := by
    intro e he
    obtain ⟨t, ht⟩ := Option.ne_none_iff_exists'.1 (h e he)
    have hof : Tag.ofRaw (Value.text e.1).name? = .ok t := Tag.of_eq_ok_iff.2 ht
    rw [readCount, hof, tagOf, ht]
    rfl
  rw [ofRaws, rawCounts, List.mapM_map, Function.comp_def, mapM_eq_ok hread]
  rfl

/-! ## Names of the tags -/

/-- The counts under the names of their tags. -/
def shownCounts (c : Concordance) : List (String × Int) := c.entries.map fun e => (e.1.name, e.2)

theorem length_shownCounts (c : Concordance) : c.shownCounts.length = c.size := by
  rw [shownCounts, List.length_map]
  exact (Text.sortBy_perm _ _).length_eq

theorem OneEntryEach.nodup_entries (h : c.OneEntryEach) :
    (c.entries.map fun e => e.1.folded).Nodup :=
  ((Text.sortBy_perm _ _).map _).nodup_iff.2 h

/-- Tags that are not the same have different names. -/
theorem OneEntryEach.nodup_shownCounts (h : c.OneEntryEach) : (c.shownCounts.map Prod.fst).Nodup := by
  have hfold : (c.shownCounts.map Prod.fst).map Text.fold = c.entries.map fun e => e.1.folded := by
    rw [shownCounts, List.map_map, List.map_map]
    exact List.map_congr_left fun e _ => e.1.folded_eq.symm
  -- entries with equal names would have equal folded names
  refine List.Nodup.of_map Text.fold ?_
  rw [hfold]
  exact h.nodup_entries

theorem OneEntryEach.nameMap_eq (h : c.OneEntryEach) : c.nameMap = rawCounts c.shownCounts := by
  rw [← foldl_assign_rawCounts h.nodup_shownCounts, rawCounts, shownCounts, List.map_map]
  rfl

/-- Names in normal form are read back as the tags that have them. -/
theorem OneEntryEach.ofRaws_nameMap (h : c.OneEntryEach)
    (hnames : ∀ e ∈ c.counts, Tag.IsName e.1.name.toList) (taxonomy : Taxonomy) :
    ofRaws taxonomy c.nameMap = .ok ⟨c.entries, taxonomy⟩ := by
  have hof : ∀ e ∈ c.entries, Tag.of? e.1.name = some e.1 := fun e he =>
    Tag.of?_name (hnames e (mem_entries_iff.1 he))
  have hvalid : ∀ e ∈ c.shownCounts, Tag.of? e.1 ≠ none := by
    intro e he
    obtain ⟨f, hf, rfl⟩ := List.mem_map.1 he
    simp [hof f hf]
  have htags : (c.shownCounts.map fun e => (tagOf e.1, e.2)) = c.entries := by
    rw [shownCounts, List.map_map]
    refine (List.map_congr_left fun e he => ?_).trans (List.map_id _)
    rw [Function.comp_apply, tagOf, hof e he]
    rfl
  rw [h.nameMap_eq, ofRaws_rawCounts taxonomy hvalid, htags]
  exact congrArg (fun es => Except.ok (Concordance.mk es taxonomy))
    (counts_ofCounts_of_nodup taxonomy h.nodup_entries)

/-- **What is written under names is read back.** If the tags of a corpus are made from raw names, its
counts are written under as many names as it has tags, no two of them equal, and reading them back
gives every tag the entry that it had, with its spelling and its count. Any counts under raw names that
make tags are read; then a tag is mentioned if one of the names makes it, its count is the sum of the
counts under these names, and the total is the sum of all counts. -/
theorem nameMap_roundTrip :
    (∀ taxonomy (features : List Feature),
      (∀ f ∈ features, ∀ ts ∈ f.tagLists, ∀ t ∈ ts, ∃ raw, Tag.of? raw = some t) →
      let c := ofFeatures taxonomy features
      c.nameMap = rawCounts c.shownCounts ∧
        (c.shownCounts.map Prod.fst).Nodup ∧
        c.shownCounts.length = c.size ∧
        ∀ taxonomy', ∃ c', ofRaws taxonomy' c.nameMap = .ok c' ∧
          c'.counts.Perm c.counts ∧
          ∀ t, c'.counts.get? t = c.counts.get? t) ∧
    ∀ taxonomy (raws : List (String × Int)), (∀ e ∈ raws, Tag.of? e.1 ≠ none) →
      ∃ c, ofRaws taxonomy (rawCounts raws) = .ok c ∧
        (∀ t, (c.has t = true ↔ ∃ e ∈ raws, ∃ u, Tag.of? e.1 = some u ∧ t.same u = true) ∧
          c.count t = ((raws.filter fun e => (Tag.of? e.1).any t.same).map Prod.snd).sum) ∧
        c.total = (raws.map Prod.snd).sum := by
  refine ⟨?_, ?_⟩
  · intro taxonomy features hof c
    have hone : c.OneEntryEach := oneEntryEach_ofFeatures taxonomy features
    have hnames : ∀ e ∈ c.counts, Tag.IsName e.1.name.toList := by
      intro e he
      have htag : e.1 ∈ c.tags := List.mem_map_of_mem (mem_entries_iff.2 he)
      obtain ⟨f, hf, ts, hts, ht⟩ := exists_list_of_mem_tags htag
      exact Tag.isName_iff_exists_of?.2 (hof f hf ts hts e.1 ht)
    have hperm : c.entries.Perm c.counts := Text.sortBy_perm _ _
    refine ⟨hone.nameMap_eq, hone.nodup_shownCounts, length_shownCounts c, fun taxonomy' => ?_⟩
    exact ⟨⟨c.entries, taxonomy'⟩, hone.ofRaws_nameMap hnames taxonomy', hperm,
      hone.get?_eq_of_perm hperm⟩
  · intro taxonomy raws hof
    -- the tag of each name is at hand, since none of the names is refused
    have hany : ∀ t : Tag, ∀ e ∈ raws, t.same (tagOf e.1) = (Tag.of? e.1).any t.same := by
      intro t e he
      obtain ⟨u, hu⟩ := Option.ne_none_iff_exists'.1 (hof e he)
      rw [tagOf, hu, Option.getD_some, Option.any_some]
    refine ⟨_, ofRaws_rawCounts taxonomy hof, fun t => ⟨?_, ?_⟩, ?_⟩
    · rw [has_ofCounts, List.any_map, List.any_eq_true]
      refine exists_congr fun e => and_congr_right fun he => ?_
      rw [Function.comp_apply, hany t e he, Option.any_eq_true]
    · rw [count_ofCounts, List.filter_map, List.map_map]
      exact congrArg (fun es => (List.map Prod.snd es).sum) (List.filter_congr (hany t))
    · rw [total_ofCounts, List.map_map]
      rfl

/-- A feature that has two tags in two spellings each. -/
def harbour : Feature :=
  ⟨"harbour.feature", "Harbour", "", [.named "@Straße", .named "@Smoke"],
    [⟨"berth", .scenario, 3, "", [.named "@STRASSE", .named "@UI", .named "@smoke"], [], []⟩], []⟩

/-- Counts under two raw names for each of two tags. -/
def tolls : List (String × Int) := [("@Smoke", 2), ("Straße", -1), (" smoke", 3), ("@STRASSE\t", 4)]

theorem nameMap_roundTrip_harbour :
    (∀ f ∈ [harbour], ∀ ts ∈ f.tagLists, ∀ t ∈ ts, ∃ raw, Tag.of? raw = some t) ∧
      (ofFeatures .standard [harbour]).shownCounts.length = 3 ∧
      (∃ c, ofRaws .standard (ofFeatures .standard [harbour]).nameMap = .ok c ∧
        c.counts.get? (.named "@STRASSE") = some (.named "@Straße", 2)) ∧
      (∀ e ∈ tolls, Tag.of? e.1 ≠ none) ∧
      ∃ c, ofRaws .standard (rawCounts tolls) = .ok c ∧
        c.has (.named "@smoke") = true ∧
        c.count (.named "@strasse") = 3 ∧
        c.total = 8 := by
  have hnames : ∀ f ∈ [harbour], ∀ ts ∈ f.tagLists, ∀ t ∈ ts, Tag.of? t.name = some t := by
    decide +kernel
  have hof : ∀ f ∈ [harbour], ∀ ts ∈ f.tagLists, ∀ t ∈ ts, ∃ raw, Tag.of? raw = some t :=
    fun f hf ts hts t ht => ⟨t.name, hnames f hf ts hts t ht⟩
  have htolls : ∀ e ∈ tolls, Tag.of? e.1 ≠ none := by decide +kernel
  obtain ⟨hwritten, hread⟩ := nameMap_roundTrip
  obtain ⟨-, -, hlength, hback⟩ := hwritten .standard [harbour] hof
  obtain ⟨c, hc, -, hentry⟩ := hback .standard
  obtain ⟨d, hd, hcounts, htotal⟩ := hread .standard tolls htolls
  refine ⟨hof, hlength.trans (by decide +kernel), ⟨c, hc, ?_⟩, htolls, d, hd, ?_, ?_, ?_⟩
  · rw [hentry]
    decide +kernel
  · rw [(hcounts _).1]
    exact ⟨("@Smoke", 2), List.mem_cons_self .., .named "@Smoke", by decide +kernel,
      by decide +kernel⟩
  · rw [(hcounts _).2]
    decide +kernel
  · rw [htotal]
    rfl

end FeatureAudit.Concordance
