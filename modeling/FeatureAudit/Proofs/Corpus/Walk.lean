import FeatureAudit.Corpus.Discovery
import FeatureAudit.Proofs.Corpus.FileTree
import FeatureAudit.Proofs.Text.Lines

/-!
# What a walk through directories meets

A walk goes down from directory to directory, but what it meets is told by the files of the tree
alone: the feature documents whose names lead past no excluded directory, and through directories
that can all be listed (`mem_documentsBelow_iff`).

* `mem_walk_iff`: the same for the levels that a walk has left to go, which the induction is on.
* `FileTree.length_le_depth`: a walk has enough levels to go for every file of its tree.
-/

set_option autoImplicit false

namespace FeatureAudit

/-! ## Listing directories -/

namespace FileTree

variable {t : FileTree} {here names : List String} {name : String}

theorem mem_fileNames_iff : name ∈ t.fileNames here ↔ here ++ [name] ∈ t.files.map Prod.fst := by
  rw [fileNames, List.mem_filterMap, List.mem_map]
  refine exists_congr fun f => and_congr_right fun _ => ?_
  constructor
  · intro h
    split at h
    · rename_i name' hbegins
      rw [List.isPrefixOf?_eq_some_iff_append_eq] at hbegins
      rw [← hbegins, Option.some.inj h]
    · simp at h
  · intro h
    rw [List.isPrefixOf?_eq_some_iff_append_eq.2 h.symm]

/-- What a file lies below is a directory. -/
theorem mem_directoryNames {below : List String} (hne : below ≠ [])
    (h : here ++ name :: below ∈ t.files.map Prod.fst) : name ∈ t.directoryNames here := by
  obtain ⟨next, rest, rfl⟩ := List.exists_cons_of_ne_nil hne
  obtain ⟨f, hf, hnames⟩ := List.mem_map.1 h
  rw [directoryNames, List.mem_eraseDups, List.mem_append, List.mem_filterMap]
  refine Or.inl ⟨f, hf, ?_⟩
  rw [List.isPrefixOf?_eq_some_iff_append_eq.2 hnames.symm]

theorem length_le_depth (h : names ∈ t.files.map Prod.fst) : names.length ≤ t.depth :=
  List.le_max?_getD_of_mem (List.mem_map_of_mem (List.mem_append_left _ h))

end FileTree

/-! ## Walks -/

namespace Discovery

variable {t : FileTree} {excluded : List String} {p : SourcePath}

theorem isFeatureName_iff {name : String} :
    isFeatureName name = true ↔ suffix.toList <:+ name.toList := by
  rw [isFeatureName, List.isPrefixOf_iff_prefix, List.reverse_prefix]

/-- A feature document that lies below a directory, in the directory that names lead to from there.
None of the names is excluded. -/
structure LiesBelow (t : FileTree) (excluded : List String) (p : SourcePath) (dirs : List String)
    (name : String) : Prop where
  file : ∃ octets, t.get? (t.place p ++ (dirs ++ [name])) = some (.file octets)
  named : suffix.toList <:+ name.toList
  wanted : ∀ d ∈ dirs, d ∉ excluded

theorem isListed_iff {names : List String} : isListed t p names = true ↔
    t.follow p names = .ok .directory ∧ t.mayRead (t.place p ++ names) = true ∧
      (p.textWith names).utf8ByteSize < FileTree.pathLimit := by
  unfold isListed
  split
  · rename_i hfollow
    simp [hfollow]
  · rename_i hfollow
    exact ⟨fun h => absurd h Bool.false_ne_true, fun h => (hfollow h.1).elim⟩

/-- Whether a walk from a path gets into the directory that names lead to: it can be listed, and so
can every directory on the way to it. -/
def Reaches (t : FileTree) (p : SourcePath) (names dirs : List String) : Prop :=
  ∀ above, above <+: dirs → isListed t p (names ++ above) = true

theorem Reaches.cons_iff {names dirs : List String} {d : String} :
    Reaches t p names (d :: dirs) ↔
      isListed t p names = true ∧ Reaches t p (names ++ [d]) dirs := by
  constructor
  · intro h
    refine ⟨?_, fun above habove => ?_⟩
    · have hfirst := h [] (List.nil_prefix ..)
      rwa [List.append_nil] at hfirst
    · rw [List.append_assoc]
      exact h (d :: above) (List.cons_prefix_cons.2 ⟨rfl, habove⟩)
  · rintro ⟨hfirst, hrest⟩ above habove
    rcases List.prefix_cons_iff.1 habove with rfl | ⟨above, rfl, hbelow⟩
    · rwa [List.append_nil]
    · rw [List.append_cons]
      exact hrest above hbelow

theorem reaches_nil_iff {names : List String} :
    Reaches t p names [] ↔ isListed t p names = true := by
  simp [Reaches, List.prefix_nil]

/-- What a walk meets in so many levels from the directory that names lead to. -/
theorem mem_walk_iff {levels : Nat} {names found : List String} :
    found ∈ walk t excluded p levels names ↔
      ∃ dirs name, found = names ++ (dirs ++ [name]) ∧ dirs.length < levels ∧
        t.place p ++ found ∈ t.files.map Prod.fst ∧ isFeatureName name = true ∧
        (∀ d ∈ dirs, d ∉ excluded) ∧ Reaches t p names dirs := by
  induction levels generalizing names with
  | zero => simp [walk]
  | succ levels ih =>
    rw [walk]
    constructor
    · intro h
      split at h
      case isFalse => simp at h
      rename_i hlisted
      rcases List.mem_append.1 h with hfile | hbelow
      · obtain ⟨name, hname, rfl⟩ := List.mem_map.1 hfile
        obtain ⟨hin, hfeature⟩ := List.mem_filter.1 hname
        rw [FileTree.mem_fileNames_iff, List.append_assoc] at hin
        exact ⟨[], name, rfl, Nat.succ_pos levels, hin, hfeature, by simp,
          reaches_nil_iff.2 hlisted⟩
      · obtain ⟨d, hd, hwalk⟩ := List.mem_flatMap.1 hbelow
        obtain ⟨dirs, name, rfl, hlength, hin, hfeature, hwanted, hrest⟩ := ih.1 hwalk
        have hexcluded : d ∉ excluded := by simpa using (List.mem_filter.1 hd).2
        exact ⟨d :: dirs, name, by simp, Nat.succ_lt_succ hlength, hin, hfeature,
          List.forall_mem_cons.2 ⟨hexcluded, hwanted⟩, Reaches.cons_iff.2 ⟨hlisted, hrest⟩⟩
    · rintro ⟨dirs, name, rfl, hlength, hin, hfeature, hwanted, hreaches⟩
      cases dirs with
      | nil =>
        rw [if_pos (reaches_nil_iff.1 hreaches), List.mem_append]
        left
        rw [List.nil_append] at hin ⊢
        refine List.mem_map_of_mem (List.mem_filter.2 ⟨?_, hfeature⟩)
        rwa [FileTree.mem_fileNames_iff, List.append_assoc]
      | cons d dirs =>
        obtain ⟨hlisted, hrest⟩ := Reaches.cons_iff.1 hreaches
        rw [if_pos hlisted, List.mem_append]
        right
        rw [List.forall_mem_cons] at hwanted
        have hd : d ∈ t.directoryNames (t.place p ++ names) := by
          have hbelow : dirs ++ [name] ≠ [] := by simp
          refine FileTree.mem_directoryNames hbelow ?_
          rwa [List.append_assoc]
        refine List.mem_flatMap.2 ⟨d, List.mem_filter.2 ⟨hd, by simpa using hwanted.1⟩, ih.2 ?_⟩
        exact ⟨dirs, name, by simp, Nat.lt_of_succ_lt_succ hlength, hin, hfeature, hwanted.2,
          hrest⟩

/-- A walk from a directory meets the feature documents that lie below it in directories that it
gets into. -/
theorem mem_documentsBelow_iff {q : SourcePath} : q ∈ documentsBelow t excluded p ↔
    ∃ dirs name, q = p.below (dirs ++ [name]) ∧ LiesBelow t excluded p dirs name ∧
      Reaches t p [] dirs := by
  rw [documentsBelow, List.mem_map]
  constructor
  · rintro ⟨found, hfound, rfl⟩
    obtain ⟨dirs, name, rfl, -, hin, hfeature, hwanted, hreaches⟩ := mem_walk_iff.1 hfound
    rw [List.nil_append] at hin
    exact ⟨dirs, name, by rw [List.nil_append], ⟨FileTree.exists_get?_eq_file_iff.2 hin,
      isFeatureName_iff.1 hfeature, hwanted⟩, hreaches⟩
  · rintro ⟨dirs, name, rfl, hlies, hreaches⟩
    have hin := FileTree.exists_get?_eq_file_iff.1 hlies.file
    have hdepth : dirs.length < t.depth := by
      have hlength := FileTree.length_le_depth hin
      simp only [List.length_append, List.length_singleton] at hlength
      omega
    exact ⟨dirs ++ [name], mem_walk_iff.2 ⟨dirs, name, rfl, hdepth, hin,
      isFeatureName_iff.2 hlies.named, hlies.wanted, hreaches⟩, rfl⟩

end Discovery

end FeatureAudit
