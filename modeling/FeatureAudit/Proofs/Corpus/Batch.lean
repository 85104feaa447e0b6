import Mathlib.Data.String.Basic
import FeatureAudit.Proofs.Corpus.Schedule

/-!
# Faults in a batch

A file without text does not touch the rest of its batch (`ofTexts_keeps_rest`).

* `exists_ofTexts_iff`: loading returns unless a path is too long to be looked up, lies below a
  directory that must not be searched, or has the character that no path may have. These three
  faults are not kept to their own document.
* `Accounts.filter_failures`: a failure is the only one of its document.
* `sortedFeatures_eq`: documents without text leave no trace among the features.
-/

set_option autoImplicit false

namespace FeatureAudit.Load

variable {t : FileTree} {detect : Bool} {order : List SourcePath → List SourcePath}
  {threshold : Int} {workers : Option Int}

/-! ## When loading returns -/

/-- A pool that breaks down on a document does not help: the document is met again. -/
theorem usable_of_run_eq_ok {finished paths : List SourcePath} (hperm : finished.Perm paths)
    {l : Load} (h : run (fun _ => parseFile t detect) threshold workers finished paths = .ok l) :
    ∀ p ∈ paths, t.lookup p ≠ .error .unusable := by
  unfold run at h
  split at h
  · split at h
    · split at h
      · rename_i results hpool
        intro p hp
        exact (parseAll_parseFile_iff.1 hpool).1 p (hperm.mem_iff.2 hp)
      · split at h
        · exact (sequential_parseFile_iff.1 h).1
        · simp at h
    · exact (sequential_parseFile_iff.1 h).1
  · exact (sequential_parseFile_iff.1 h).1

theorem usable_of_scheduled_eq_ok (horder : ∀ qs, (order qs).Perm qs) {ps : List SourcePath}
    {l : Load} (h : scheduled t (fun _ => parseFile t detect) order threshold workers ps = .ok l) :
    (∀ p ∈ ps, Discovery.Admits t p) ∧ ∀ p ∈ documents t ps, t.lookup p ≠ .error .unusable := by
  rw [scheduled] at h
  cases hpaths : Discovery.paths t Discovery.standardExclusions ps with
  | error cause => simp [hpaths, Except.bind] at h
  | ok paths =>
    obtain ⟨hadmits, rfl⟩ := Discovery.paths_eq_ok_iff.1 hpaths
    rw [hpaths, Except.bind] at h
    exact ⟨hadmits, usable_of_run_eq_ok (horder _) h⟩

/-- Loads the documents of a file tree. -/
def ofTexts (t : FileTree) (detect : Bool) (order : List SourcePath → List SourcePath)
    (threshold : Int) (workers : Option Int) (texts : List String) : Except Abort Load :=
  scheduled t (fun _ => parseFile t detect) order threshold workers (texts.map SourcePath.ofText)

/-- What loading returns is made of the entries of all documents. -/
theorem eq_of_ofTexts_eq_ok (ht : t.WellNamed) (horder : ∀ qs, (order qs).Perm qs)
    {texts : List String} {l : Load}
    (h : ofTexts t detect order threshold workers texts = .ok l) :
    ∃ pooled, l = ofResults (documents t (texts.map SourcePath.ofText)) pooled
      ((documents t (texts.map SourcePath.ofText)).map (entry t detect)) := by
  obtain ⟨hadmits, husable⟩ := usable_of_scheduled_eq_ok horder h
  obtain ⟨pooled, hload⟩ :=
    scheduled_eq_ok horder (unsteady_self _ _) (proper_documents ht texts) hadmits husable
  exact ⟨pooled, Except.ok.inj (h.symm.trans hload)⟩

/-- Loading returns exactly if discovery takes every path, and none has the character that no path
may have. -/
theorem exists_ofTexts_iff (ht : t.WellNamed) (horder : ∀ qs, (order qs).Perm qs)
    {texts : List String} :
    (∃ l, ofTexts t detect order threshold workers texts = .ok l) ↔
      ∀ p ∈ texts.map SourcePath.ofText, Discovery.Admits t p ∧ '\x00' ∉ p.text.toList := by
  constructor
  · rintro ⟨l, h⟩ p hp
    obtain ⟨hadmits, husable⟩ := usable_of_scheduled_eq_ok horder h
    refine ⟨hadmits p hp, fun hnul => ?_⟩
    have hunusable : t.lookup p = .error .unusable := FileTree.lookup_eq_unusable_iff.2 hnul
    -- such a path is no directory, so it is a document itself
    exact husable p (Discovery.mem_found_self hp (by simp [hunusable])) hunusable
  · intro h
    have husable : ∀ p ∈ texts.map SourcePath.ofText, t.lookup p ≠ .error .unusable :=
      fun p hp hunusable => (h p hp).2 (FileTree.lookup_eq_unusable_iff.1 hunusable)
    obtain ⟨pooled, hload⟩ := scheduled_eq_ok horder (unsteady_self _ _)
      (proper_documents ht texts) (fun p hp => (h p hp).1)
      (Discovery.usable_of_mem_found ht husable)
    exact ⟨_, hload⟩

/-! ## Files without text -/

/-- A path under which there is no directory and no file with a text. -/
def Unreadable (t : FileTree) (p : SourcePath) : Prop :=
  t.lookup p ≠ .ok .directory ∧ ∃ fault, Source.read t p = .error fault

/-- A failure is the only one of its document. -/
theorem Accounts.filter_failures {l : Load} (h : l.Accounts) {g : Failure} (hg : g ∈ l.failures)
    (hpath : g.path ∈ l.paths) : l.failures.filter (fun g' => g'.path == g.path) = [g] := by
  have hmem : g ∈ l.failures.filter (fun g' => g'.path == g.path) :=
    List.mem_filter.2 ⟨hg, beq_self_eq_true g.path⟩
  have hone : (l.failures.filter (fun g' => g'.path == g.path)).length = 1 := by
    have honce := h.once g.path hpath
    rw [List.countP_eq_length_filter (l := l.failures)] at honce
    have hpos := List.length_pos_of_mem hmem
    omega
  obtain ⟨g', hg'⟩ := List.length_eq_one_iff.1 hone
  rw [hg', List.mem_singleton] at hmem
  rw [hg', hmem]

theorem failureOf_mem_failures {paths : List SourcePath} {p : SourcePath} (hp : p ∈ paths)
    {fault : Source.Fault} (h : Source.read t p = .error fault) (pooled : Bool) :
    failureOf p fault ∈ (ofResults paths pooled (paths.map (entry t detect))).failures := by
  simp only [ofResults, sortedFailures]
  rw [(Text.sortBy_perm _ _).mem_iff, mem_entries_iff]
  exact ⟨p, hp, by rw [entry_of_read_eq_error h, failure?]⟩

/-! ## The features of the other files -/

/-- Whether a document becomes a feature. -/
def hasFeature (t : FileTree) (detect : Bool) (p : SourcePath) : Bool :=
  (feature? (entry t detect p)).isSome

theorem hasFeature_eq_false {p : SourcePath} {fault : Source.Fault}
    (h : Source.read t p = .error fault) : hasFeature t detect p = false := by
  rw [hasFeature, entry_of_read_eq_error h, feature?, Option.isSome_none]

theorem filterMap_filter_hasFeature (ps : List SourcePath) :
    ((ps.filter (hasFeature t detect)).map (entry t detect)).filterMap feature? =
      (ps.map (entry t detect)).filterMap feature? := by
  rw [List.filterMap_map, List.filterMap_map, List.filterMap_filter]
  congr 1
  funext p
  cases hfeature : feature? (entry t detect p) <;> simp [hasFeature, hfeature]

/-- Only the documents that become features count for the features. -/
theorem sortedFeatures_eq {ps qs : List SourcePath} (hps : ps.Nodup) (hqs : qs.Nodup)
    (hproper : ∀ p ∈ ps, p.Proper)
    (h : ∀ p, hasFeature t detect p = true → (p ∈ ps ↔ p ∈ qs)) :
    sortedFeatures (ps.map (entry t detect)) = sortedFeatures (qs.map (entry t detect)) := by
  have hperm : (ps.filter (hasFeature t detect)).Perm (qs.filter (hasFeature t detect)) := by
    rw [List.perm_ext_iff_of_nodup (hps.filter _) (hqs.filter _)]
    intro p
    rw [List.mem_filter, List.mem_filter]
    exact and_congr_left (h p)
  refine Text.sortBy_eq_of_perm ?_ (eq_of_key_eq path_feature hproper)
  rw [← filterMap_filter_hasFeature ps, ← filterMap_filter_hasFeature qs]
  exact (hperm.map _).filterMap _

/-- Leaving out paths under which there is no text loses no document that becomes a feature. -/
theorem mem_documents_filter_iff {texts : List String} {keep : String → Bool}
    (hkeep : ∀ s ∈ texts, keep s = false → Unreadable t (SourcePath.ofText s)) {p : SourcePath}
    (hp : hasFeature t detect p = true) :
    p ∈ documents t ((texts.filter keep).map SourcePath.ofText) ↔
      p ∈ documents t (texts.map SourcePath.ofText) := by
  rw [Discovery.mem_found_iff, Discovery.mem_found_iff]
  constructor
  · rintro ⟨q, hq, hstands⟩
    exact ⟨q, List.map_subset _ (List.filter_subset_self _) hq, hstands⟩
  · rintro ⟨q, hq, hstands⟩
    obtain ⟨s, hs, rfl⟩ := List.mem_map.1 hq
    cases hkept : keep s with
    | true => exact ⟨_, List.mem_map_of_mem (List.mem_filter.2 ⟨hs, hkept⟩), hstands⟩
    | false =>
      obtain ⟨hdir, fault, hfault⟩ := hkeep s hs hkept
      rw [Discovery.standsFor_of_ne_directory hdir, List.mem_singleton] at hstands
      rw [hstands, hasFeature_eq_false hfault] at hp
      contradiction

/-! ## Batches -/

/-- Loading returns exactly if no look-up of a path is too long or denied, and no path has the
character that no path may have. Every path without a directory is then a document of the load; a
document that has no text, given or found, has exactly one failure; and without the paths that have
no text the features are the same. -/
theorem ofTexts_keeps_rest (ht : t.WellNamed) (horder : ∀ qs, (order qs).Perm qs)
    (texts : List String) :
    ((∃ l, ofTexts t detect order threshold workers texts = .ok l) ↔
        ∀ p ∈ texts.map SourcePath.ofText, t.lookup p ≠ .error .nameTooLong ∧
          t.lookup p ≠ .error .denied ∧ '\x00' ∉ p.text.toList) ∧
      ∀ l, ofTexts t detect order threshold workers texts = .ok l →
        (∀ p ∈ texts.map SourcePath.ofText, t.lookup p ≠ .ok .directory → p ∈ l.paths) ∧
        (∀ p ∈ l.paths, ∀ fault, Source.read t p = .error fault →
          l.failures.filter (fun g => g.path == p) = [failureOf p fault]) ∧
        ∀ keep : String → Bool,
          (∀ s ∈ texts, keep s = false → Unreadable t (SourcePath.ofText s)) →
          ∃ l', ofTexts t detect order threshold workers (texts.filter keep) = .ok l' ∧
            l'.features = l.features := by
  refine ⟨(exists_ofTexts_iff ht horder).trans (forall₂_congr fun _ _ => and_assoc),
    fun l hload => ?_⟩
  have hreturns := (exists_ofTexts_iff ht horder).1 ⟨l, hload⟩
  obtain ⟨pooled, rfl⟩ := eq_of_ofTexts_eq_ok ht horder hload
  have hnodup : ∀ ps, (documents t ps).Nodup := Discovery.nodup_found
  refine ⟨fun p hp hdir => Discovery.mem_found_self hp hdir, fun p hp fault hfault => ?_,
    fun keep hkeep => ?_⟩
  · exact (accounts_ofResults (hnodup _) (proper_documents ht texts) pooled).filter_failures
      (failureOf_mem_failures hp hfault pooled) hp
  · obtain ⟨l', hload'⟩ :
        ∃ l', ofTexts t detect order threshold workers (texts.filter keep) = .ok l' :=
      (exists_ofTexts_iff ht horder).2 fun p hp =>
        hreturns p (List.map_subset _ (List.filter_subset_self _) hp)
    obtain ⟨pooled', rfl⟩ := eq_of_ofTexts_eq_ok ht horder hload'
    exact ⟨_, hload', sortedFeatures_eq (hnodup _) (hnodup _) (proper_documents ht _)
      fun p hp => mem_documents_filter_iff hkeep hp⟩

/-- A feature document, one that is no text, one that must not be read, and one in a directory that
must not be searched. -/
def cabinet : FileTree where
  files := [(["home", "a.feature"], Text.Utf8.encode "Feature: A\n".toList),
    (["home", "b.feature"], [0xFF]), (["home", "d.feature"], []),
    (["home", "box", "e.feature"], [])]
  current := ["home"]
  unreadable := [["home", "d.feature"]]
  unsearchable := [["home", "box"]]

theorem wellNamed_cabinet : cabinet.WellNamed := ⟨by decide, by decide⟩

theorem ofTexts_keeps_rest_cabinet :
    ∃ l l', ofTexts cabinet true List.reverse 0 none
        ["b.feature", "/home/a.feature", "c.feature", "d.feature", "box"] = .ok l ∧
      (∀ p ∈ ["b.feature", "/home/a.feature", "c.feature", "d.feature"].map SourcePath.ofText,
        p ∈ l.paths) ∧
      l.failures.filter (fun g => g.path == SourcePath.ofText "b.feature") =
        [failureOf (SourcePath.ofText "b.feature") (.encoding ⟨0, [0xFF], .invalidStart⟩)] ∧
      l.failures.filter (fun g => g.path == SourcePath.ofText "c.feature") =
        [failureOf (SourcePath.ofText "c.feature") (.access .missing)] ∧
      l.failures.filter (fun g => g.path == SourcePath.ofText "d.feature") =
        [failureOf (SourcePath.ofText "d.feature") (.access .denied)] ∧
      ofTexts cabinet true List.reverse 0 none ["/home/a.feature", "box"] = .ok l' ∧
      l'.features = l.features := by
  have hbatch := @ofTexts_keeps_rest cabinet true List.reverse 0 none wellNamed_cabinet
    List.reverse_perm ["b.feature", "/home/a.feature", "c.feature", "d.feature", "box"]
  have hundecodable : Source.read cabinet (SourcePath.ofText "b.feature") =
      .error (.encoding ⟨0, [0xFF], .invalidStart⟩) := by decide +kernel
  have hmissing : Source.read cabinet (SourcePath.ofText "c.feature") =
      .error (.access .missing) := by decide +kernel
  have hdenied : Source.read cabinet (SourcePath.ofText "d.feature") =
      .error (.access .denied) := by decide +kernel
  obtain ⟨l, hload⟩ := hbatch.1.2 (by decide +kernel)
  obtain ⟨hpaths, hfailures, hfeatures⟩ := hbatch.2 l hload
  obtain ⟨l', hload', hsame⟩ :=
    hfeatures (fun s => s == "/home/a.feature" || s == "box") (by
      simp only [List.mem_cons, List.not_mem_nil, or_false]
      rintro s (rfl | rfl | rfl | rfl | rfl) hdropped
      · exact ⟨by decide +kernel, _, hundecodable⟩
      · simp at hdropped
      · exact ⟨by decide +kernel, _, hmissing⟩
      · exact ⟨by decide +kernel, _, hdenied⟩
      · simp at hdropped)
  have hgiven : ∀ p ∈ ["b.feature", "/home/a.feature", "c.feature", "d.feature"].map
      SourcePath.ofText, p ∈ l.paths := by
    intro p hp
    have hfile : cabinet.lookup p ≠ .ok .directory := by
      revert p
      decide +kernel
    refine hpaths p ?_ hfile
    revert p
    decide +kernel
  exact ⟨l, l', hload, hgiven, hfailures _ (hgiven _ (by simp)) _ hundecodable,
    hfailures _ (hgiven _ (by simp)) _ hmissing, hfailures _ (hgiven _ (by simp)) _ hdenied,
    hload', hsame⟩

/-- A name that repeats one character too often. -/
def longName (n : Nat) : String := String.ofList (List.replicate n 'b')

theorem utf8ByteSize_longName (n : Nat) : (longName n).utf8ByteSize = n := by
  rw [longName, String.utf8ByteSize_ofList]
  induction n with
  | zero => rfl
  | succ n ih => rw [List.replicate_succ, String.utf8Len_cons, ih]; rfl

theorem lookup_longName {n : Nat} (hn : FileTree.nameLimit < n) :
    cabinet.lookup (SourcePath.ofText (longName n)) = .error .nameTooLong := by
  refine FileTree.lookup_of_long_name rfl rfl ?_ ?_ (by rwa [utf8ByteSize_longName])
  all_goals
    rw [longName, String.toList_ofList, List.mem_replicate]
    rintro ⟨-, hchar⟩
    revert hchar
    decide

/-- A path with the character that no path may have ends a batch whose other document can be read,
and so does a name that is too long, and a path below a directory that must not be searched. -/
theorem ofTexts_cabinet_aborted :
    (∃ l, ofTexts cabinet true id standardThreshold none ["a.feature"] = .ok l) ∧
      (¬ ∃ l, ofTexts cabinet true id standardThreshold none ["a.feature", "b\x00.feature"] =
        .ok l) ∧
      (¬ ∃ l, ofTexts cabinet true id standardThreshold none ["a.feature", longName 256] =
        .ok l) ∧
      ¬ ∃ l, ofTexts cabinet true id standardThreshold none ["a.feature", "box/e.feature"] =
        .ok l := by
  have horder : ∀ qs : List SourcePath, (id qs).Perm qs := List.Perm.refl
  rw [exists_ofTexts_iff wellNamed_cabinet horder, exists_ofTexts_iff wellNamed_cabinet horder,
    exists_ofTexts_iff wellNamed_cabinet horder, exists_ofTexts_iff wellNamed_cabinet horder]
  refine ⟨by decide +kernel, by decide +kernel, fun hreturns => ?_, by decide +kernel⟩
  exact (hreturns (SourcePath.ofText (longName 256)) (by simp)).1.1 (lookup_longName (by decide))

end FeatureAudit.Load
