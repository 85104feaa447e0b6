import FeatureAudit.Corpus.Load
import FeatureAudit.Proofs.Corpus.Discovery
import FeatureAudit.Proofs.Dialect.Annotation
import FeatureAudit.Proofs.Document.Frame

/-!
# What the documents of a corpus become

Every document that can be looked up becomes one entry, a feature under its path or a failure that
names it (`guarded_parseFile`). Entries are counted by documents (`countP_entries`), and sorting
them forgets in which order they came in (`ofResults_map_entry`).
-/

set_option autoImplicit false

namespace FeatureAudit

theorem Form.read_path (form : Form) (text path : String) : (form.read text path).path = path := by
  cases form with
  | plain => rw [Form.read, Document.read_path]
  | scripted => rw [Form.read, Dialect.read, Dialect.annotate_eq, Document.read_path]

namespace Load

/-! ## Entries -/

/-- What cannot be done with a file that has no text. -/
def stageOf : Source.Fault → Stage
  | .access _ => .read
  | .encoding _ => .decode

/-- The failure of a document that has no text. -/
def failureOf (p : SourcePath) (fault : Source.Fault) : Failure :=
  ⟨p, (stageOf fault).name, fault.kind ++ ": " ++ fault.text p.text⟩

/-- What a document becomes. -/
def entry (t : FileTree) (detect : Bool) (p : SourcePath) : Result :=
  match Source.read t p with
  | .ok text => .ok ((Form.ofText detect text p.text).read text p.text)
  | .error fault => .error (failureOf p fault)

variable {t : FileTree} {detect : Bool}

theorem entry_of_read_eq_error {p : SourcePath} {fault : Source.Fault}
    (h : Source.read t p = .error fault) : entry t detect p = .error (failureOf p fault) := by
  simp [entry, h]

theorem path_of_entry_eq_ok {p : SourcePath} {f : Feature} (h : entry t detect p = .ok f) :
    f.path = p.text := by
  unfold entry at h
  split at h
  · rw [← Except.ok.inj h, Form.read_path]
  · simp at h

theorem path_of_entry_eq_error {p : SourcePath} {g : Failure} (h : entry t detect p = .error g) :
    g.path = p := by
  unfold entry at h
  split at h
  · simp at h
  · rw [← Except.error.inj h, failureOf]

/-- A file is refused exactly if its path is. -/
theorem read_eq_unusable_iff {p : SourcePath} :
    Source.read t p = .error (.access .unusable) ↔ t.lookup p = .error .unusable := by
  rw [← FileTree.read_eq_unusable_iff, Source.read, Source.readWith]
  split
  · simp_all
  · split <;> simp_all

/-- A document becomes its entry. -/
theorem guarded_parseFile {p : SourcePath} (h : t.lookup p ≠ .error .unusable) :
    guarded (parseFile t detect) p = .ok (entry t detect p) := by
  rw [guarded, parseFile, Form.parseAt_eq, entry]
  cases hread : Source.read t p with
  | ok text => rfl
  | error fault =>
    cases fault with
    | encoding fault => rfl
    | access fault =>
      cases fault with
      | unusable => exact absurd (read_eq_unusable_iff.1 hread) h
      | _ => rfl

/-- A document that cannot be looked up ends the work. -/
theorem guarded_parseFile_of_unusable {p : SourcePath} (h : t.lookup p = .error .unusable) :
    guarded (parseFile t detect) p = .error .badValue := by
  rw [guarded, parseFile, Form.parseAt_eq, read_eq_unusable_iff.2 h]
  rfl

/-- Documents are parsed exactly if all of them can be looked up, and each becomes its entry. -/
theorem parseAll_parseFile_iff {ps : List SourcePath} {results : List Result} :
    parseAll (parseFile t detect) ps = .ok results ↔
      (∀ p ∈ ps, t.lookup p ≠ .error .unusable) ∧ results = ps.map (entry t detect) := by
  constructor
  · intro h
    have husable : ∀ p ∈ ps, t.lookup p ≠ .error .unusable := by
      intro p hp hunusable
      obtain ⟨r, hr⟩ := exists_of_mapM_eq_ok h p hp
      simp [guarded_parseFile_of_unusable hunusable] at hr
    rw [parseAll, mapM_eq_ok fun p hp => guarded_parseFile (husable p hp)] at h
    exact ⟨husable, (Except.ok.inj h).symm⟩
  · rintro ⟨husable, rfl⟩
    exact mapM_eq_ok fun p hp => guarded_parseFile (husable p hp)

/-! ## Counting entries -/

theorem feature?_eq_some_iff {r : Result} {f : Feature} : feature? r = some f ↔ r = .ok f := by
  cases r <;> simp [feature?]

theorem failure?_eq_some_iff {r : Result} {g : Failure} : failure? r = some g ↔ r = .error g := by
  cases r <;> simp [failure?]

theorem length_filterMap_add (results : List Result) :
    (results.filterMap feature?).length + (results.filterMap failure?).length =
      results.length := by
  induction results with
  | nil => rfl
  | cons r results ih =>
    cases r with
    | ok f =>
      simp only [List.filterMap_cons, feature?, failure?, List.length_cons]
      omega
    | error g =>
      simp only [List.filterMap_cons, feature?, failure?, List.length_cons]
      omega

/-- A document has as many entries, features under its path and failures that name it, as it is
among the documents. -/
theorem countP_entries {p : SourcePath} (hp : p.Proper) {qs : List SourcePath}
    (hqs : ∀ q ∈ qs, q.Proper) :
    ((qs.map (entry t detect)).filterMap feature?).countP (fun f => f.path == p.text) +
        ((qs.map (entry t detect)).filterMap failure?).countP (fun g => g.path == p) =
      qs.count p := by
  induction qs with
  | nil => rfl
  | cons q qs ih =>
    have hrest := ih fun r hr => hqs r (List.mem_cons_of_mem q hr)
    have htext : q.text = p.text ↔ q = p :=
      ⟨SourcePath.text_inj (hqs q (List.mem_cons_self ..)) hp, fun h => by rw [h]⟩
    cases hentry : entry t detect q with
    | ok f =>
      have hpath : f.path = q.text := path_of_entry_eq_ok hentry
      simp only [List.map_cons, hentry, List.filterMap_cons, feature?, failure?, List.countP_cons,
        List.count_cons, beq_iff_eq, hpath, htext]
      omega
    | error g =>
      have hpath : g.path = q := path_of_entry_eq_error hentry
      simp only [List.map_cons, hentry, List.filterMap_cons, feature?, failure?, List.countP_cons,
        List.count_cons, beq_iff_eq, hpath]
      omega

/-! ## Sorting entries -/

section Sorting

variable {α : Type} {part : Result → Option α} {key : α → String}

theorem mem_entries_iff {ps : List SourcePath} {a : α} :
    a ∈ (ps.map (entry t detect)).filterMap part ↔ ∃ p ∈ ps, part (entry t detect p) = some a := by
  simp [List.mem_filterMap]

/-- Entries with the same path are those of one document. -/
theorem eq_of_key_eq (hkey : ∀ p a, part (entry t detect p) = some a → key a = p.text)
    {ps : List SourcePath} (hps : ∀ p ∈ ps, p.Proper) :
    ∀ a ∈ (ps.map (entry t detect)).filterMap part,
      ∀ b ∈ (ps.map (entry t detect)).filterMap part, key a = key b → a = b := by
  intro a ha b hb hab
  obtain ⟨p, hp, hpart⟩ := mem_entries_iff.1 ha
  obtain ⟨q, hq, hpart'⟩ := mem_entries_iff.1 hb
  have htext : p.text = q.text := by rw [← hkey p a hpart, ← hkey q b hpart', hab]
  rw [SourcePath.text_inj (hps p hp) (hps q hq) htext, hpart'] at hpart
  exact (Option.some.inj hpart).symm

end Sorting

/-- A feature has the path of its document. -/
theorem path_feature (p : SourcePath) (f : Feature)
    (h : feature? (entry t detect p) = some f) : f.path = p.text :=
  path_of_entry_eq_ok (feature?_eq_some_iff.1 h)

/-- A failure has the path of its document. -/
theorem path_failure (p : SourcePath) (g : Failure)
    (h : failure? (entry t detect p) = some g) : g.path.text = p.text := by
  rw [path_of_entry_eq_error (failure?_eq_some_iff.1 h)]

/-- The load of documents, whatever the order in which they were parsed. -/
theorem ofResults_map_entry {paths ps qs : List SourcePath} (hperm : ps.Perm qs)
    (hps : ∀ p ∈ ps, p.Proper) (pooled : Bool) :
    ofResults paths pooled (ps.map (entry t detect)) =
      ofResults paths pooled (qs.map (entry t detect)) := by
  have hfeatures : sortedFeatures (ps.map (entry t detect)) =
      sortedFeatures (qs.map (entry t detect)) :=
    Text.sortBy_eq_of_perm ((hperm.map _).filterMap _) (eq_of_key_eq path_feature hps)
  have hfailures : sortedFailures (ps.map (entry t detect)) =
      sortedFailures (qs.map (entry t detect)) :=
    Text.sortBy_eq_of_perm ((hperm.map _).filterMap _) (eq_of_key_eq path_failure hps)
  rw [ofResults, ofResults, hfeatures, hfailures]

end Load

end FeatureAudit
