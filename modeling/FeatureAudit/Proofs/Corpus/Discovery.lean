import FeatureAudit.Proofs.Corpus.Walk
import FeatureAudit.Proofs.Text.Order
import FeatureAudit.Proofs.Traversal

/-!
# What discovery finds

Discovery returns unless a look-up of one of the paths is too long or denied (`Admits`), and then
gives what each path stands for, without repetition (`paths_eq_ok_iff`). In a well-named tree
everything it finds is a proper path, and no path is refused that was not refused when it was given
(`usable_of_mem_found`).
-/

set_option autoImplicit false

namespace FeatureAudit.Discovery

variable {t : FileTree} {excluded : List String}

/-- What a path stands for, if it can be looked up. -/
def standsFor (t : FileTree) (excluded : List String) (p : SourcePath) : List SourcePath :=
  match t.lookup p with
  | .ok .directory => documentsBelow t excluded p
  | _ => [p]

/-- The documents that paths stand for, each once and in order. -/
def found (t : FileTree) (excluded : List String) (ps : List SourcePath) : List SourcePath :=
  (Text.sortBy SourcePath.compare (ps.flatMap (standsFor t excluded))).eraseDups

theorem standsFor_of_ne_directory {p : SourcePath} (h : t.lookup p ≠ .ok .directory) :
    standsFor t excluded p = [p] := by
  unfold standsFor
  split
  · contradiction
  · rfl

/-! ## When discovery returns -/

/-- Whether discovery takes a path: a look-up of it is neither too long nor denied. -/
def Admits (t : FileTree) (p : SourcePath) : Prop :=
  t.lookup p ≠ .error .nameTooLong ∧ t.lookup p ≠ .error .denied

instance (t : FileTree) (p : SourcePath) : Decidable (Admits t p) :=
  inferInstanceAs (Decidable (_ ∧ _))

theorem admits_of_eq_ok {p : SourcePath} {e : FileTree.Entry} (h : t.lookup p = .ok e) :
    Admits t p := by
  simp [Admits, h]

/-- A path that is not taken ends discovery. -/
theorem exists_expand_eq_error {p : SourcePath} (h : ¬ Admits t p) :
    ∃ cause, expand t excluded p = .error cause := by
  unfold expand isDirectory
  split <;> simp_all [Admits, Except.map]

theorem expand_eq_ok {p : SourcePath} (h : Admits t p) :
    expand t excluded p = .ok (standsFor t excluded p) := by
  unfold expand isDirectory standsFor
  split <;> simp_all [Admits, Except.map]

/-- Discovery returns exactly if it takes all paths. -/
theorem paths_eq_ok_iff {ps qs : List SourcePath} : paths t excluded ps = .ok qs ↔
    (∀ p ∈ ps, Admits t p) ∧ qs = found t excluded ps := by
  unfold paths
  constructor
  · intro h
    have hadmits : ∀ p ∈ ps, Admits t p := by
      intro p hp
      by_contra hnot
      obtain ⟨cause, hcause⟩ : ∃ cause, expand t excluded p = .error cause :=
        exists_expand_eq_error hnot
      cases hmap : ps.mapM (expand t excluded) with
      | error e => simp [hmap, Except.map] at h
      | ok found =>
        obtain ⟨q, hq⟩ := exists_of_mapM_eq_ok hmap p hp
        rw [hcause] at hq
        cases hq
    rw [mapM_eq_ok fun p hp => expand_eq_ok (hadmits p hp)] at h
    exact ⟨hadmits, by simpa [Except.map, found, List.flatMap] using h.symm⟩
  · rintro ⟨hadmits, rfl⟩
    rw [mapM_eq_ok fun p hp => expand_eq_ok (hadmits p hp)]
    rfl

/-! ## What is found -/

theorem nodup_eraseDups {α : Type} [BEq α] [LawfulBEq α] (xs : List α) : xs.eraseDups.Nodup := by
  match xs with
  | [] => simp
  | x :: xs =>
    rw [List.eraseDups_cons, List.nodup_cons, List.mem_eraseDups]
    exact ⟨by simp, nodup_eraseDups _⟩
termination_by xs.length
decreasing_by exact Nat.lt_succ_of_le (List.length_filter_le _ _)

theorem eraseDups_sublist {α : Type} [BEq α] [LawfulBEq α] (xs : List α) :
    xs.eraseDups.Sublist xs := by
  match xs with
  | [] => simp
  | x :: xs =>
    rw [List.eraseDups_cons]
    exact ((eraseDups_sublist _).trans List.filter_sublist).cons_cons x
termination_by xs.length
decreasing_by exact Nat.lt_succ_of_le (List.length_filter_le _ _)

theorem nodup_found (ps : List SourcePath) : (found t excluded ps).Nodup := nodup_eraseDups _

theorem mem_found_iff {ps : List SourcePath} {q : SourcePath} :
    q ∈ found t excluded ps ↔ ∃ p ∈ ps, q ∈ standsFor t excluded p := by
  rw [found, List.mem_eraseDups, (Text.sortBy_perm _ _).mem_iff, List.mem_flatMap]

/-- A path that is no directory is found itself. -/
theorem mem_found_self {ps : List SourcePath} {p : SourcePath} (hp : p ∈ ps)
    (h : t.lookup p ≠ .ok .directory) : p ∈ found t excluded ps :=
  mem_found_iff.2 ⟨p, hp, by simp [standsFor_of_ne_directory h]⟩

/-- A document below a directory has the names of one of the files in its path. -/
theorem exists_of_mem_documentsBelow {p q : SourcePath} (h : q ∈ documentsBelow t excluded p) :
    ∃ names, q = p.below names ∧ ∃ f ∈ t.files, names ⊆ f.1 := by
  obtain ⟨dirs, name, rfl, hlies, -⟩ := mem_documentsBelow_iff.1 h
  obtain ⟨f, hf, hnames⟩ := List.mem_map.1 (FileTree.exists_get?_eq_file_iff.1 hlies.file)
  exact ⟨dirs ++ [name], rfl, f, hf, hnames ▸ List.subset_append_right _ _⟩

/-- What is found is a path that was given, or lies below a directory that was given. -/
theorem mem_found_cases {ps : List SourcePath} {q : SourcePath} (h : q ∈ found t excluded ps) :
    q ∈ ps ∧ t.lookup q ≠ .ok .directory ∨
      ∃ p ∈ ps, t.lookup p = .ok .directory ∧ q ∈ documentsBelow t excluded p := by
  obtain ⟨p, hp, hq⟩ := mem_found_iff.1 h
  by_cases hdir : t.lookup p = .ok .directory
  · rw [standsFor, hdir] at hq
    exact Or.inr ⟨p, hp, hdir, hq⟩
  · rw [standsFor_of_ne_directory hdir, List.mem_singleton] at hq
    exact Or.inl (hq ▸ ⟨hp, hdir⟩)

theorem proper_of_mem_found (ht : t.WellNamed) {ps : List SourcePath}
    (hps : ∀ p ∈ ps, p.Proper) : ∀ q ∈ found t excluded ps, q.Proper := by
  intro q hq
  rcases mem_found_cases hq with ⟨hgiven, -⟩ | ⟨p, hp, -, hbelow⟩
  · exact hps q hgiven
  · obtain ⟨names, rfl, f, hf, hsub⟩ := exists_of_mem_documentsBelow hbelow
    exact (hps p hp).below fun name hname => ht.isName f hf name (hsub hname)

/-- Below a directory that could be looked up nothing has the character that no path may have. -/
theorem usable_of_mem_documentsBelow (ht : t.WellNamed) {p q : SourcePath}
    (hp : t.lookup p ≠ .error .unusable) (hq : q ∈ documentsBelow t excluded p) :
    t.lookup q ≠ .error .unusable := by
  obtain ⟨names, rfl, f, hf, hsub⟩ := exists_of_mem_documentsBelow hq
  have hslash : '\x00' ≠ '/' := by decide
  have hpoint : '\x00' ≠ '.' := by decide
  rw [Ne, FileTree.lookup_eq_unusable_iff, SourcePath.mem_text_iff hslash hpoint] at hp ⊢
  rintro (hroot | ⟨name, hname, hin⟩)
  · exact hp (Or.inl hroot)
  · rcases List.mem_append.1 hname with hold | hnew
    · exact hp (Or.inr ⟨name, hold, hin⟩)
    · exact ht.usable f hf name (hsub hnew) hin

/-- No path is refused that was not refused when it was given. -/
theorem usable_of_mem_found (ht : t.WellNamed) {ps : List SourcePath}
    (hps : ∀ p ∈ ps, t.lookup p ≠ .error .unusable) :
    ∀ q ∈ found t excluded ps, t.lookup q ≠ .error .unusable := by
  intro q hq
  rcases mem_found_cases hq with ⟨hgiven, -⟩ | ⟨p, hp, -, hbelow⟩
  · exact hps q hgiven
  · exact usable_of_mem_documentsBelow ht (hps p hp) hbelow

end FeatureAudit.Discovery
