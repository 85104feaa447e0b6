import FeatureAudit.Proofs.Corpus.Load

/-!
# The schedule of the workers has no effect

A pool hands the documents to workers, which finish in some order, and it may break down on the way.
Loading gives the same paths, features and failures as reading the documents one after the other,
whatever the order and wherever the pool breaks down (`scheduled_eq_sequential`). The reason is that
no two documents have the same path, so sorting leaves nothing of the order, and that nothing of a
broken pool is kept.
-/

set_option autoImplicit false

namespace FeatureAudit.Load

/-! ## Schedules and breakdowns -/

/-- Loads documents as `ofPaths` does, with workers that finish in a given order. -/
def scheduled (t : FileTree) (parse : Nat → SourcePath → Except ParseFault Feature)
    (order : List SourcePath → List SourcePath) (threshold : Int) (workers : Option Int)
    (ps : List SourcePath) : Except Abort Load :=
  (Discovery.paths t Discovery.standardExclusions ps).bind fun paths =>
    run parse threshold workers (order paths) paths

theorem ofPaths_eq_scheduled (t : FileTree) (parse : Nat → SourcePath → Except ParseFault Feature)
    (threshold : Int) (workers : Option Int) (ps : List SourcePath) :
    ofPaths t parse threshold workers ps = scheduled t parse id threshold workers ps := rfl

/-- A parser that does what `steady` does, except that a pool at work may break down at the first
call for a document. -/
def Unsteady (pooled : Prop) (steady : SourcePath → Except ParseFault Feature)
    (parse : Nat → SourcePath → Except ParseFault Feature) : Prop :=
  ∀ n p, parse n p = steady p ∨
    pooled ∧ n = 0 ∧ ∃ cause : Abort, cause.isRetried = true ∧ parse n p = .error (.aborted cause)

theorem unsteady_self (pooled : Prop) (steady : SourcePath → Except ParseFault Feature) :
    Unsteady pooled steady fun _ => steady := fun _ _ => Or.inl rfl

/-- Whether a pool is at work on documents. -/
def IsPooled (threshold : Int) (workers : Option Int) (paths : List SourcePath) : Prop :=
  threshold < paths.length ∧ poolStarts workers = true

section Run

variable {steady : SourcePath → Except ParseFault Feature}
  {parse : Nat → SourcePath → Except ParseFault Feature} {g : SourcePath → Result}
  {threshold : Int} {workers : Option Int} {finished paths : List SourcePath}

theorem sequential_eq_ok {steady : SourcePath → Except ParseFault Feature}
    (h : ∀ p ∈ paths, guarded steady p = .ok (g p)) :
    sequential steady paths = .ok (ofResults paths false (paths.map g)) := by
  rw [sequential, parseAll, mapM_eq_ok h]
  rfl

/-- A pool that ends gives the results of its documents in the order in which they were finished. -/
theorem results_of_pool {pooled : Prop} (hparse : Unsteady pooled steady parse)
    (hsteady : ∀ p ∈ finished, guarded steady p = .ok (g p)) {results : List Result}
    (h : parseAll (parse 0) finished = .ok results) : results = finished.map g := by
  have hresult : ∀ p ∈ finished, guarded (parse 0) p = .ok (g p) := by
    intro p hp
    rcases hparse 0 p with hsame | ⟨-, -, cause, -, hbroken⟩
    · rw [guarded, hsame]
      exact hsteady p hp
    · obtain ⟨r, hr⟩ := exists_of_mapM_eq_ok h p hp
      simp [guarded, hbroken] at hr
  rw [parseAll, mapM_eq_ok hresult] at h
  exact (Except.ok.inj h).symm

/-- A pool that does not end has broken down in a way after which the batch is done again. -/
theorem isRetried_of_pool {pooled : Prop} (hparse : Unsteady pooled steady parse)
    (hsteady : ∀ p ∈ finished, guarded steady p = .ok (g p)) {cause : Abort}
    (h : parseAll (parse 0) finished = .error cause) : cause.isRetried = true := by
  obtain ⟨p, hp, hend⟩ := exists_of_mapM_eq_error h
  rcases hparse 0 p with hsame | ⟨-, -, cause', hretried, hbroken⟩
  · rw [guarded, hsame] at hend
    have hok := hsteady p hp
    rw [guarded, hend] at hok
    simp at hok
  · have hcause : cause' = cause := by simpa [guarded, hbroken] using hend
    rwa [hcause] at hretried

/-- A run gives the results of all documents in some order. -/
theorem run_eq_ok (hperm : finished.Perm paths)
    (hparse : Unsteady (IsPooled threshold workers paths) steady parse)
    (hsteady : ∀ p ∈ paths, guarded steady p = .ok (g p)) :
    ∃ (pooled : Bool) (done : List SourcePath), done.Perm paths ∧
      run parse threshold workers finished paths = .ok (ofResults paths pooled (done.map g)) := by
  have hfinished : ∀ p ∈ finished, guarded steady p = .ok (g p) := fun p hp =>
    hsteady p (hperm.mem_iff.1 hp)
  -- without a pool, and after one, nothing breaks down
  have hsequential : ∀ n, ¬ (IsPooled threshold workers paths ∧ n = 0) →
      sequential (parse n) paths = .ok (ofResults paths false (paths.map g)) := by
    intro n hn
    refine sequential_eq_ok fun p hp => ?_
    rcases hparse n p with hsame | ⟨hpooled, hzero, -⟩
    · rw [guarded, hsame]
      exact hsteady p hp
    · exact absurd ⟨hpooled, hzero⟩ hn
  unfold run
  by_cases hmany : threshold < paths.length
  · rw [if_pos hmany]
    by_cases hstarts : poolStarts workers = true
    · rw [if_pos hstarts]
      cases hpool : parseAll (parse 0) finished with
      | ok results =>
        rw [results_of_pool hparse hfinished hpool]
        exact ⟨true, finished, hperm, rfl⟩
      | error cause =>
        simp only [isRetried_of_pool hparse hfinished hpool, if_true]
        exact ⟨false, paths, .refl paths, hsequential 1 (by simp)⟩
    · rw [if_neg hstarts]
      exact ⟨false, paths, .refl paths, hsequential 0 fun h => hstarts h.1.2⟩
  · rw [if_neg hmany]
    exact ⟨false, paths, .refl paths, hsequential 0 fun h => hmany h.1.1⟩

end Run

/-! ## Entries of a load -/

/-- Every document of a load has one entry, a feature under its path or a failure that names it, and
there are no other entries. -/
structure Accounts (l : Load) : Prop where
  nodup : l.paths.Nodup
  once : ∀ p ∈ l.paths,
    l.features.countP (fun f => f.path == p.text) + l.failures.countP (fun g => g.path == p) = 1
  all : l.features.length + l.failures.length = l.paths.length

variable {t : FileTree} {detect : Bool}

theorem accounts_ofResults {paths : List SourcePath} (hnodup : paths.Nodup)
    (hproper : ∀ p ∈ paths, p.Proper) (pooled : Bool) :
    (ofResults paths pooled (paths.map (entry t detect))).Accounts where
  nodup := hnodup
  once p hp := by
    simp only [ofResults, sortedFeatures, sortedFailures]
    rw [(Text.sortBy_perm _ _).countP_eq, (Text.sortBy_perm _ _).countP_eq,
      countP_entries (hproper p hp) hproper]
    exact List.count_eq_one_of_mem hnodup hp
  all := by
    simp only [ofResults, sortedFeatures, sortedFailures]
    rw [(Text.sortBy_perm _ _).length_eq, (Text.sortBy_perm _ _).length_eq, length_filterMap_add,
      List.length_map]

/-! ## Loading -/

section Loading

variable {ps : List SourcePath}

/-- The documents that paths stand for unless directories are named that are left out. -/
abbrev documents (t : FileTree) (ps : List SourcePath) : List SourcePath :=
  Discovery.found t Discovery.standardExclusions ps

theorem proper_documents (ht : t.WellNamed) (texts : List String) :
    ∀ p ∈ documents t (texts.map SourcePath.ofText), p.Proper := by
  refine Discovery.proper_of_mem_found ht fun p hp => ?_
  obtain ⟨s, -, rfl⟩ := List.mem_map.1 hp
  exact SourcePath.proper_ofText s

/-- Reading documents one after the other returns exactly if all of them can be looked up, and gives
the entry of each. -/
theorem sequential_parseFile_iff {paths : List SourcePath} {l : Load} :
    sequential (parseFile t detect) paths = .ok l ↔
      (∀ p ∈ paths, t.lookup p ≠ .error .unusable) ∧
        ofResults paths false (paths.map (entry t detect)) = l := by
  constructor
  · intro h
    rw [sequential] at h
    cases hresults : parseAll (parseFile t detect) paths with
    | error cause => simp [hresults, Except.map] at h
    | ok results =>
      obtain ⟨husable, rfl⟩ := parseAll_parseFile_iff.1 hresults
      rw [hresults] at h
      exact ⟨husable, Except.ok.inj h⟩
  · rintro ⟨husable, rfl⟩
    exact sequential_eq_ok fun p hp => guarded_parseFile (husable p hp)

/-- Discovering documents and reading them one after the other returns exactly if discovery takes
every path and every document can be looked up. -/
theorem sequential_iff {l : Load} :
    (Discovery.paths t Discovery.standardExclusions ps).bind (sequential (parseFile t detect)) =
        .ok l ↔
      (∀ p ∈ ps, Discovery.Admits t p) ∧
        (∀ p ∈ documents t ps, t.lookup p ≠ .error .unusable) ∧
        ofResults (documents t ps) false ((documents t ps).map (entry t detect)) = l := by
  constructor
  · intro h
    cases hpaths : Discovery.paths t Discovery.standardExclusions ps with
    | error cause => simp [hpaths, Except.bind] at h
    | ok paths =>
      obtain ⟨hadmits, rfl⟩ := Discovery.paths_eq_ok_iff.1 hpaths
      rw [hpaths, Except.bind] at h
      exact ⟨hadmits, sequential_parseFile_iff.1 h⟩
  · rintro ⟨hadmits, hload⟩
    rw [Discovery.paths_eq_ok_iff.2 ⟨hadmits, rfl⟩, Except.bind]
    exact sequential_parseFile_iff.2 hload

/-- If every document can be looked up, loading returns the entry of each, whatever the schedule. -/
theorem scheduled_eq_ok {parse : Nat → SourcePath → Except ParseFault Feature}
    {order : List SourcePath → List SourcePath} {threshold : Int} {workers : Option Int}
    (horder : ∀ qs, (order qs).Perm qs)
    (hparse : Unsteady (IsPooled threshold workers (documents t ps)) (parseFile t detect) parse)
    (hproper : ∀ p ∈ documents t ps, p.Proper)
    (hadmits : ∀ p ∈ ps, Discovery.Admits t p)
    (husable : ∀ p ∈ documents t ps, t.lookup p ≠ .error .unusable) :
    ∃ pooled, scheduled t parse order threshold workers ps =
      .ok (ofResults (documents t ps) pooled ((documents t ps).map (entry t detect))) := by
  obtain ⟨pooled, done, hdone, hrun⟩ := run_eq_ok (horder _) hparse fun p hp =>
    guarded_parseFile (husable p hp)
  refine ⟨pooled, ?_⟩
  have hsorted : ofResults (documents t ps) pooled (done.map (entry t detect)) =
      ofResults (documents t ps) pooled ((documents t ps).map (entry t detect)) :=
    ofResults_map_entry hdone (fun p hp => hproper p (hdone.mem_iff.1 hp)) pooled
  rw [scheduled, Discovery.paths_eq_ok_iff.2 ⟨hadmits, rfl⟩, Except.bind, hrun, hsorted]

end Loading

/-- Whatever the order in which the workers finish, and whether or not the pool can start or breaks
down, loading returns what reading the documents one after the other returns: the same paths, the
same features and the same failures, in the same order. Every document has exactly one entry. -/
theorem scheduled_eq_sequential (ht : t.WellNamed) {texts : List String} {l : Load}
    (hsequential : (Discovery.paths t Discovery.standardExclusions
      (texts.map SourcePath.ofText)).bind (sequential (parseFile t detect)) = .ok l)
    {order : List SourcePath → List SourcePath} (horder : ∀ qs, (order qs).Perm qs)
    {threshold : Int} {workers : Option Int}
    {parse : Nat → SourcePath → Except ParseFault Feature}
    (hparse : Unsteady (IsPooled threshold workers l.paths) (parseFile t detect) parse) :
    ∃ l', scheduled t parse order threshold workers (texts.map SourcePath.ofText) = .ok l' ∧
      l'.paths = l.paths ∧ l'.features = l.features ∧ l'.failures = l.failures ∧
      l'.Accounts := by
  obtain ⟨hadmits, husable, rfl⟩ := sequential_iff.1 hsequential
  have hproper := proper_documents ht texts
  obtain ⟨pooled, hload⟩ := scheduled_eq_ok horder hparse hproper hadmits husable
  exact ⟨_, hload, rfl, rfl, rfl, accounts_ofResults (Discovery.nodup_found _) hproper pooled⟩

/-- A feature document, and a file of that name without a text. -/
def shelf : FileTree :=
  { files :=
      [(["a.feature"], Text.Utf8.encode "Feature: A\n".toList), (["b.feature"], [0xFF])] }

theorem wellNamed_shelf : shelf.WellNamed := ⟨by decide, by decide⟩

/-- A parser under which a pool breaks down at the first call for one of the two files. -/
def faltering (n : Nat) (p : SourcePath) : Except ParseFault Feature :=
  if n = 0 ∧ p.text = "b.feature" then .error (.aborted .brokenDown) else parseFile shelf true p

theorem scheduled_eq_sequential_shelf :
    ∃ l l', (Discovery.paths shelf Discovery.standardExclusions
          (["b.feature", "a.feature"].map SourcePath.ofText)).bind
          (sequential (parseFile shelf true)) = .ok l ∧
      scheduled shelf faltering List.reverse 0 none
          (["b.feature", "a.feature"].map SourcePath.ofText) = .ok l' ∧
      l'.paths = l.paths ∧ l'.features = l.features ∧ l'.failures = l.failures ∧
      l'.Accounts := by
  have hadmits : ∀ p ∈ ["b.feature", "a.feature"].map SourcePath.ofText,
      Discovery.Admits shelf p := by decide
  have husable : ∀ p ∈ ["b.feature", "a.feature"].map SourcePath.ofText,
      shelf.lookup p ≠ .error .unusable := by decide
  have hsequential := (@sequential_iff shelf true _ _).2
    ⟨hadmits, Discovery.usable_of_mem_found wellNamed_shelf husable, rfl⟩
  have hmem : SourcePath.ofText "b.feature" ∈
      documents shelf (["b.feature", "a.feature"].map SourcePath.ofText) :=
    Discovery.mem_found_self (by simp) (by decide)
  have hparse : Unsteady
      (IsPooled 0 none (documents shelf (["b.feature", "a.feature"].map SourcePath.ofText)))
      (parseFile shelf true) faltering := by
    intro n p
    unfold faltering
    split
    · rename_i hfirst
      exact Or.inr ⟨⟨by exact_mod_cast List.length_pos_of_mem hmem, rfl⟩, hfirst.1,
        .brokenDown, rfl, rfl⟩
    · exact Or.inl rfl
  obtain ⟨l', hload⟩ :=
    scheduled_eq_sequential wellNamed_shelf hsequential List.reverse_perm hparse
  exact ⟨_, l', hsequential, hload⟩

end FeatureAudit.Load
