import FeatureAudit.Proofs.Corpus.Discovery

/-!
# What paths stand for

Discovery is meant to give, in order and each once, the paths that are no directories and the
feature documents that lie below the others (`Meant`). It does so as long as no text of a path
becomes too long on the way and all directories on the way are open (`paths_extent`): the order and
the repetition of the paths given do not matter, nor does a directory below another, and what is
found is found again as it is. A document in a directory that cannot be listed is passed over, and
one that cannot be looked up itself is found but refused when it is given (`paths_detour`).
-/

set_option autoImplicit false

namespace FeatureAudit.Discovery

variable {t : FileTree} {excluded : List String} {given qs : List SourcePath} {q : SourcePath}

/-- What paths are meant to stand for: those that are no directories for themselves, directories for
the feature documents that lie below them. -/
def Meant (t : FileTree) (excluded : List String) (given : List SourcePath) (q : SourcePath) :
    Prop :=
  (q ∈ given ∧ t.lookup q ≠ .ok .directory) ∨
    ∃ p ∈ given, t.lookup p = .ok .directory ∧ ∃ dirs name, q = p.below (dirs ++ [name]) ∧
      LiesBelow t excluded p dirs name

/-- Whether all documents that paths are meant to stand for can be got to: none has too long a text,
as a walk puts it together, and the directories on the way may be listed and searched. -/
def Accessible (t : FileTree) (excluded : List String) (given : List SourcePath) : Prop :=
  ∀ p ∈ given, t.lookup p = .ok .directory → ∀ dirs name, LiesBelow t excluded p dirs name →
    (p.textWith (dirs ++ [name])).utf8ByteSize < FileTree.pathLimit ∧
      ∀ above, above <+: dirs →
        t.mayRead (t.place p ++ above) = true ∧ t.maySearch (t.place p ++ above) = true

/-! ## Order -/

/-- What is found comes in strictly increasing order. -/
theorem strictly_increasing_found (ht : t.WellNamed) (hgiven : ∀ p ∈ given, p.Proper) :
    (found t excluded given).Pairwise fun p q => p.compare q = .lt := by
  have hsorted := (Text.pairwise_sortBy SourcePath.compare
    (given.flatMap (standsFor t excluded))).sublist (eraseDups_sublist _)
  refine (hsorted.and (nodup_found given)).imp_of_mem ?_
  intro p q hp hq ⟨hle, hne⟩
  have hproper : ∀ r ∈ found t excluded given, r.Proper := proper_of_mem_found ht hgiven
  cases hcompare : p.compare q with
  | lt => rfl
  | eq => exact absurd (SourcePath.eq_of_compare (hproper p hp) (hproper q hq) hcompare) hne
  | gt => simp [hcompare] at hle

/-- Discovery gives a strictly increasing list whenever that has the members of what is found. -/
theorem paths_eq_ok (ht : t.WellNamed) (hgiven : ∀ p ∈ given, p.Proper)
    (hadmits : ∀ p ∈ given, Admits t p)
    (hqs : qs.Pairwise fun p q => p.compare q = .lt)
    (h : ∀ q, q ∈ qs ↔ q ∈ found t excluded given) : paths t excluded given = .ok qs :=
  paths_eq_ok_iff.2 ⟨hadmits, Text.eq_of_strictly_increasing hqs
    (strictly_increasing_found ht hgiven) h⟩

/-! ## Members -/

/-- What is found are the paths that are no directories, and the documents below the others that
stand in directories into which a walk gets. -/
theorem mem_found_iff_reaches : q ∈ found t excluded given ↔
    (q ∈ given ∧ t.lookup q ≠ .ok .directory) ∨
      ∃ p ∈ given, t.lookup p = .ok .directory ∧ ∃ dirs name, q = p.below (dirs ++ [name]) ∧
        LiesBelow t excluded p dirs name ∧ Reaches t p [] dirs := by
  simp only [← mem_documentsBelow_iff]
  constructor
  · exact mem_found_cases
  · rintro (⟨hq, hdir⟩ | ⟨p, hp, hdir, hq⟩)
    · exact mem_found_self hq hdir
    · exact mem_found_iff.2 ⟨p, hp, by rwa [standsFor, hdir]⟩

theorem meant_of_mem_found (h : q ∈ found t excluded given) : Meant t excluded given q :=
  (mem_found_iff_reaches.1 h).imp_right fun ⟨p, hp, hdir, dirs, name, hq, hlies, _⟩ =>
    ⟨p, hp, hdir, dirs, name, hq, hlies⟩

/-- A walk gets into open directories as long as no text becomes too long. -/
theorem Accessible.reaches (ht : t.WellFormed) (h : Accessible t excluded given) {p : SourcePath}
    (hp : p ∈ given) (hdir : t.lookup p = .ok .directory) {dirs : List String} {name : String}
    (hlies : LiesBelow t excluded p dirs name) : Reaches t p [] dirs := by
  intro above habove
  obtain ⟨hshort, hopen⟩ := h p hp hdir dirs name hlies
  obtain ⟨rest, rfl⟩ := habove
  obtain ⟨octets, hfile⟩ := hlies.file
  have hfollow : t.follow p ([] ++ above) = .ok .directory := by
    rw [FileTree.follow_append (by simp [FileTree.LeadDown])
      (FileTree.follow_of_lookup_eq_ok hdir), List.append_nil]
    rw [List.append_assoc above] at hfile
    exact ht.walk_above (by simp) hfile fun further hfurther _ =>
      (hopen further (hfurther.trans (List.prefix_append ..))).2
  refine isListed_iff.2 ⟨hfollow, (hopen above (List.prefix_append ..)).1, ?_⟩
  refine Nat.lt_of_le_of_lt ?_ hshort
  rw [List.append_assoc above]
  exact p.utf8ByteSize_textWith_le_append above _

theorem mem_found_iff_meant (ht : t.WellFormed) (haccess : Accessible t excluded given) :
    q ∈ found t excluded given ↔ Meant t excluded given q := by
  refine ⟨meant_of_mem_found, fun h => mem_found_iff_reaches.2 (h.imp_right ?_)⟩
  rintro ⟨p, hp, hdir, dirs, name, hq, hlies⟩
  exact ⟨p, hp, hdir, dirs, name, hq, hlies, haccess.reaches ht hp hdir hlies⟩

/-! ## Finding again -/

/-- The names of a document below a directory lead down to its place. -/
theorem LiesBelow.place_below (ht : t.WellFormed) {p : SourcePath} {dirs : List String}
    {name : String} (h : LiesBelow t excluded p dirs name) :
    t.place (p.below (dirs ++ [name])) = t.place p ++ (dirs ++ [name]) := by
  obtain ⟨octets, hfile⟩ := h.file
  exact FileTree.place_below (ht.leadDown_of_get? hfile).1

/-- A document below a directory is refused if its text is too long or its own directory must not be
searched, and is a file otherwise. -/
theorem lookup_of_mem_documentsBelow (ht : t.WellFormed) {p : SourcePath}
    (hdir : t.lookup p = .ok .directory) (hq : q ∈ documentsBelow t excluded p) :
    ∃ octets, t.lookup q =
      if FileTree.pathLimit ≤ q.text.utf8ByteSize then .error .nameTooLong
      else if t.maySearch (t.place q).dropLast then .ok (.file octets) else .error .denied := by
  have husable := usable_of_mem_documentsBelow ht.toWellNamed (by simp [hdir]) hq
  obtain ⟨dirs, name, rfl, hlies, hreaches⟩ := mem_documentsBelow_iff.1 hq
  obtain ⟨octets, hfile⟩ := hlies.file
  have hlisted : isListed t p dirs = true := hreaches dirs (List.prefix_refl dirs)
  refine ⟨octets, ?_⟩
  rw [ht.lookup_below (isListed_iff.1 hlisted).1 hfile husable, hlies.place_below ht,
    ← List.append_assoc, List.dropLast_concat]

/-- What is found is no directory. -/
theorem lookup_ne_directory_of_mem_found (ht : t.WellFormed) (hq : q ∈ found t excluded given) :
    t.lookup q ≠ .ok .directory := by
  rcases mem_found_cases hq with ⟨-, hdir⟩ | ⟨p, -, hdir, hbelow⟩
  · exact hdir
  · obtain ⟨octets, hlookup⟩ := lookup_of_mem_documentsBelow ht hdir hbelow
    rw [hlookup]
    split
    · simp
    · split <;> simp

/-- Discovery takes what is found, if it was given, or if its text is not too long and its directory
may be searched. -/
theorem admits_iff_of_mem_found (ht : t.WellFormed) (hadmits : ∀ p ∈ given, Admits t p)
    (hq : q ∈ found t excluded given) :
    Admits t q ↔ q ∈ given ∨
      q.text.utf8ByteSize < FileTree.pathLimit ∧ t.maySearch (t.place q).dropLast = true := by
  rcases mem_found_cases hq with ⟨hgiven, -⟩ | ⟨p, -, hdir, hbelow⟩
  · simp [hgiven, hadmits q hgiven]
  · obtain ⟨octets, hlookup⟩ := lookup_of_mem_documentsBelow ht hdir hbelow
    have hiff : Admits t q ↔
        q.text.utf8ByteSize < FileTree.pathLimit ∧ t.maySearch (t.place q).dropLast = true := by
      rw [Admits, hlookup]
      split
      · rename_i hlong
        simp [Nat.not_lt.2 hlong]
      · rename_i hshort
        split
        · rename_i hopen
          simp [hopen, Nat.not_le.1 hshort]
        · rename_i hclosed
          simp [hclosed]
    rw [hiff]
    exact ⟨Or.inr, fun h => h.elim (fun hgiven => hiff.1 (hadmits q hgiven)) id⟩

/-- What is found is found again as it is, if discovery takes it. -/
theorem paths_found_iff (ht : t.WellFormed) (hgiven : ∀ p ∈ given, p.Proper) :
    paths t excluded (found t excluded given) = .ok (found t excluded given) ↔
      ∀ q ∈ found t excluded given, Admits t q := by
  have hproper : ∀ r ∈ found t excluded given, r.Proper :=
    proper_of_mem_found ht.toWellNamed hgiven
  refine ⟨fun h => (paths_eq_ok_iff.1 h).1, fun hadmits => ?_⟩
  refine paths_eq_ok ht.toWellNamed hproper hadmits
    (strictly_increasing_found ht.toWellNamed hgiven) fun q => ?_
  have hmem : q ∈ found t excluded (found t excluded given) ↔ _ := mem_found_iff_reaches
  rw [hmem]
  constructor
  · exact fun hq => Or.inl ⟨hq, lookup_ne_directory_of_mem_found ht hq⟩
  · rintro (⟨hq, -⟩ | ⟨p, hp, hdir, -⟩)
    · exact hq
    · exact absurd hdir (lookup_ne_directory_of_mem_found ht hp)

/-- Accessible documents can be looked up where they are found. -/
theorem Accessible.retrievable (ht : t.WellFormed) (h : Accessible t excluded given)
    (hq : q ∈ found t excluded given) : q ∈ given ∨
      q.text.utf8ByteSize < FileTree.pathLimit ∧ t.maySearch (t.place q).dropLast = true := by
  refine (mem_found_iff_reaches.1 hq).imp And.left ?_
  rintro ⟨p, hp, hdir, dirs, name, rfl, hlies, -⟩
  obtain ⟨hshort, hopen⟩ := h p hp hdir dirs name hlies
  refine ⟨Nat.lt_of_le_of_lt ?_ hshort, ?_⟩
  · have hle := p.utf8ByteSize_textWith_below_le (dirs ++ [name]) []
    rwa [List.append_nil] at hle
  · rw [hlies.place_below ht, ← List.append_assoc, List.dropLast_concat]
    exact (hopen dirs (List.prefix_refl dirs)).2

/-! ## Directories below directories -/

section Nested

variable {p : SourcePath} {dirs : List String}
variable (hdown : FileTree.LeadDown dirs) (hwanted : ∀ d ∈ dirs, d ∉ excluded)
include hdown hwanted

/-- What lies below a directory lies below every directory above it. -/
theorem LiesBelow.of_below {more : List String} {name : String}
    (h : LiesBelow t excluded (p.below dirs) more name) :
    LiesBelow t excluded p (dirs ++ more) name where
  file := by
    obtain ⟨octets, hfile⟩ := h.file
    rw [FileTree.place_below hdown, List.append_assoc] at hfile
    exact ⟨octets, by rwa [List.append_assoc]⟩
  named := h.named
  wanted d hd := (List.mem_append.1 hd).elim (hwanted d) (h.wanted d)

variable (hp : p ∈ given) (hdir : t.lookup p = .ok .directory)
include hp hdir

theorem Accessible.cons_below (h : Accessible t excluded given) :
    Accessible t excluded (p.below dirs :: given) := by
  intro r hr hrdir more name hlies
  rcases List.mem_cons.1 hr with rfl | hr
  · obtain ⟨hshort, hopen⟩ := h p hp hdir (dirs ++ more) name (hlies.of_below hdown hwanted)
    refine ⟨Nat.lt_of_le_of_lt ?_ hshort, fun above habove => ?_⟩
    · rw [List.append_assoc]
      exact p.utf8ByteSize_textWith_below_le dirs _
    · rw [FileTree.place_below hdown, List.append_assoc]
      exact hopen (dirs ++ above) ((List.prefix_append_right_inj dirs).2 habove)
  · exact h r hr hrdir more name hlies

/-- A directory below another one stands for nothing more. -/
theorem meant_cons_below (hbelow : t.lookup (p.below dirs) = .ok .directory) :
    Meant t excluded (p.below dirs :: given) q ↔ Meant t excluded given q := by
  constructor
  · rintro (⟨hq, hnot⟩ | ⟨r, hr, hrdir, more, name, rfl, hlies⟩)
    · rcases List.mem_cons.1 hq with rfl | hq
      · exact absurd hbelow hnot
      · exact Or.inl ⟨hq, hnot⟩
    · rcases List.mem_cons.1 hr with rfl | hr
      · refine Or.inr ⟨p, hp, hdir, dirs ++ more, name, ?_, hlies.of_below hdown hwanted⟩
        simp [SourcePath.below]
      · exact Or.inr ⟨r, hr, hrdir, more, name, rfl, hlies⟩
  · rintro (⟨hq, hnot⟩ | ⟨r, hr, hrdir, hlies⟩)
    · exact Or.inl ⟨List.mem_cons_of_mem _ hq, hnot⟩
    · exact Or.inr ⟨r, List.mem_cons_of_mem _ hr, hrdir, hlies⟩

end Nested

/-- The names of a path that is read from a text lead down, if none of them leads up. -/
theorem leadDown_of_ofText {text : String} {p : SourcePath} {dirs : List String}
    (h : SourcePath.ofText text = p.below dirs) (hup : ".." ∉ dirs) : FileTree.LeadDown dirs := by
  intro name hname
  have hproper := SourcePath.proper_ofText text
  rw [h] at hproper
  refine ⟨(hproper.parts name (List.mem_append_right _ hname)).2.1, ?_⟩
  rintro rfl
  exact hup hname

/-! ## What discovery gives -/

/-- **What discovery gives.** Whenever it returns, the paths are strictly increasing. They are the
paths given that are no directories, and below the others the feature documents that lie there
without an excluded directory on the way, as long as every directory on the way can be listed. So
they do not depend on order or repetition of the paths given. They are given again as they are
exactly if those that are new have texts that are not too long and directories that may be searched.
Where all documents that are meant are accessible, just those that are meant are given, they are
given again as they are, and another directory that lies below one of the paths changes nothing. -/
theorem paths_extent (ht : t.WellFormed) {texts : List String}
    (h : paths t excluded (texts.map SourcePath.ofText) = .ok qs) :
    let given := texts.map SourcePath.ofText
    qs.Pairwise (fun p q => p.compare q = .lt) ∧
      (∀ q, q ∈ qs ↔ (q ∈ given ∧ t.lookup q ≠ .ok .directory) ∨
        ∃ p ∈ given, t.lookup p = .ok .directory ∧ ∃ dirs name, q = p.below (dirs ++ [name]) ∧
          LiesBelow t excluded p dirs name ∧
          ∀ above, above <+: dirs → isListed t p above = true) ∧
      (∀ others : List String,
        (∀ p, p ∈ others.map SourcePath.ofText ↔ p ∈ given) →
          paths t excluded (others.map SourcePath.ofText) = .ok qs) ∧
      (paths t excluded qs = .ok qs ↔ ∀ q ∈ qs, q ∈ given ∨
        q.text.utf8ByteSize < FileTree.pathLimit ∧ t.maySearch (t.place q).dropLast = true) ∧
      (Accessible t excluded given →
        (∀ q, q ∈ qs ↔ Meant t excluded given q) ∧ paths t excluded qs = .ok qs ∧
          ∀ p ∈ given, t.lookup p = .ok .directory → ∀ text dirs,
            SourcePath.ofText text = p.below dirs → ".." ∉ dirs → (∀ d ∈ dirs, d ∉ excluded) →
              t.lookup (p.below dirs) = .ok .directory →
                paths t excluded ((text :: texts).map SourcePath.ofText) = .ok qs) := by
  intro given
  obtain ⟨hadmits, rfl⟩ := paths_eq_ok_iff.1 h
  have hincreasing : (found t excluded given).Pairwise fun p q => p.compare q = .lt :=
    strictly_increasing_found ht.toWellNamed SourcePath.proper_of_mem_map_ofText
  have hagain : paths t excluded (found t excluded given) = .ok (found t excluded given) ↔ _ :=
    (paths_found_iff ht SourcePath.proper_of_mem_map_ofText).trans
      (forall₂_congr fun q hq => admits_iff_of_mem_found ht hadmits hq)
  refine ⟨hincreasing, fun q => mem_found_iff_reaches, fun others hsame => ?_, hagain,
    fun haccess => ⟨fun q => mem_found_iff_meant ht haccess,
      hagain.2 fun q hq => haccess.retrievable ht hq, ?_⟩⟩
  · refine paths_eq_ok ht.toWellNamed SourcePath.proper_of_mem_map_ofText
      (fun p hp => hadmits p ((hsame p).1 hp)) hincreasing fun q => ?_
    simp only [mem_found_iff, hsame, given]
  · intro p hp hdir text dirs htext hup hwanted hbelow
    have hdown := leadDown_of_ofText htext hup
    have hcons : (text :: texts).map SourcePath.ofText = p.below dirs :: given := by
      rw [List.map_cons, htext]
    refine paths_eq_ok ht.toWellNamed SourcePath.proper_of_mem_map_ofText ?_ hincreasing
      fun q => ?_
    · rw [hcons]
      exact List.forall_mem_cons.2 ⟨admits_of_eq_ok hbelow, hadmits⟩
    · rw [hcons, mem_found_iff_meant ht haccess,
        mem_found_iff_meant ht (haccess.cons_below hdown hwanted hp hdir),
        meant_cons_below hdown hwanted hp hdir hbelow]

/-- A tree with one document in a directory below the current one, and one in a directory below
that. -/
def archive : FileTree where
  files := [(["home", "a", "y.feature"], []), (["home", "a", "docs", "x.feature"], [])]
  current := ["home"]

theorem wellFormed_archive : archive.WellFormed where
  isName := by decide
  usable := by decide
  no_up := by decide
  short := by decide
  apart := by decide

/-- A document of the archive below the directory `a`. -/
theorem LiesBelow.of_archive {p : SourcePath} (hp : archive.place p = ["home", "a"])
    {dirs : List String} {name : String} (h : LiesBelow archive excluded p dirs name) :
    dirs ++ [name] = ["y.feature"] ∨ dirs ++ [name] = ["docs", "x.feature"] := by
  have hfile := FileTree.exists_get?_eq_file_iff.1 h.file
  rw [hp] at hfile
  simpa [archive] using hfile

/-- The document of the archive below the directory `docs`. -/
theorem LiesBelow.of_archive_docs {p : SourcePath} (hp : archive.place p = ["home", "a", "docs"])
    {dirs : List String} {name : String} (h : LiesBelow archive excluded p dirs name) :
    dirs ++ [name] = ["x.feature"] := by
  have hfile := FileTree.exists_get?_eq_file_iff.1 h.file
  rw [hp] at hfile
  simpa [archive] using hfile

theorem accessible_archive : Accessible archive standardExclusions
    (["a", "a", "/home/a/docs", "../home/b.feature"].map SourcePath.ofText) := by
  intro p hp hdir dirs name hlies
  refine ⟨?_, fun above _ => ⟨rfl, rfl⟩⟩
  have hgiven : p = .ofText "a" ∨ p = .ofText "/home/a/docs" ∨ p = .ofText "../home/b.feature" := by
    simpa using hp
  rcases hgiven with rfl | rfl | rfl
  · rcases hlies.of_archive (by decide) with hnames | hnames <;> rw [hnames] <;> decide
  · rw [hlies.of_archive_docs (by decide)]
    decide
  · exact absurd hdir (by decide)

theorem paths_extent_archive :
    let given := ["a", "a", "/home/a/docs", "../home/b.feature"].map SourcePath.ofText
    let qs : List SourcePath :=
      [⟨"", ["..", "home", "b.feature"]⟩, ⟨"/", ["home", "a", "docs", "x.feature"]⟩,
        ⟨"", ["a", "docs", "x.feature"]⟩, ⟨"", ["a", "y.feature"]⟩]
    archive.WellFormed ∧ paths archive standardExclusions given = .ok qs ∧
      Accessible archive standardExclusions given ∧
      qs.Pairwise (fun p q => p.compare q = .lt) ∧
      (∀ q, q ∈ qs ↔ Meant archive standardExclusions given q) ∧
      paths archive standardExclusions
        (["../home/b.feature", "/home/a/docs", "a"].map SourcePath.ofText) = .ok qs ∧
      paths archive standardExclusions qs = .ok qs ∧
      paths archive standardExclusions
        (["a/docs", "a", "a", "/home/a/docs", "../home/b.feature"].map SourcePath.ofText) =
          .ok qs := by
  intro given qs
  have hpaths : paths archive standardExclusions given = .ok qs := by
    have hstands : (∀ q ∈ qs, q ∈ given.flatMap (standsFor archive standardExclusions)) ∧
        ∀ q ∈ given.flatMap (standsFor archive standardExclusions), q ∈ qs := by
      decide +kernel
    refine paths_eq_ok wellFormed_archive.toWellNamed SourcePath.proper_of_mem_map_ofText
      (by decide) (by decide) fun q => ?_
    rw [mem_found_iff, ← List.mem_flatMap]
    exact ⟨hstands.1 q, hstands.2 q⟩
  obtain ⟨hincreasing, -, hothers, -, hall⟩ := paths_extent wellFormed_archive hpaths
  obtain ⟨hmeant, hagain, hnested⟩ := hall accessible_archive
  have hsame : (∀ p ∈ ["../home/b.feature", "/home/a/docs", "a"].map SourcePath.ofText, p ∈ given) ∧
      ∀ p ∈ given, p ∈ ["../home/b.feature", "/home/a/docs", "a"].map SourcePath.ofText := by
    decide +kernel
  have hdocs := hnested (.ofText "a") (by simp) (by decide) "a/docs" ["docs"] (by decide)
    (by decide) (by decide) (by decide)
  exact ⟨wellFormed_archive, hpaths, accessible_archive, hincreasing, hmeant,
    hothers ["../home/b.feature", "/home/a/docs", "a"] fun p => ⟨hsame.1 p, hsame.2 p⟩, hagain,
    hdocs⟩

/-! ## A long way round -/

/-- A path that goes down into a directory and up again, and ends there. -/
def detour (rounds : Nat) : SourcePath :=
  ⟨"", (List.replicate rounds ["a", ".."]).flatten ++ ["a"]⟩

theorem parts_detour_ne_nil (rounds : Nat) : (detour rounds).parts ≠ [] := by simp [detour]

theorem steps_detour (rounds : Nat) : (detour rounds).steps = (detour rounds).parts :=
  SourcePath.steps_eq_parts fun h => parts_detour_ne_nil rounds h.2

theorem place_detour (rounds : Nat) : archive.place (detour rounds) = ["home", "a"] := by
  have hsettle : FileTree.settle ["home"] (detour rounds).parts = ["home", "a"] := by
    induction rounds with
    | zero => rfl
    | succ rounds ih => exact ih
  rw [FileTree.place, steps_detour]
  exact hsettle

theorem follow_detour (rounds : Nat) : archive.follow (detour rounds) [] = .ok .directory := by
  have hwalk : archive.walk ["home"] (detour rounds).parts = .ok .directory := by
    induction rounds with
    | zero => decide
    | succ rounds ih => exact ih
  rw [FileTree.follow, steps_detour, List.append_nil]
  exact hwalk

theorem utf8ByteSize_detour (rounds : Nat) :
    (detour rounds).text.utf8ByteSize = 5 * rounds + 1 := by
  have hwidth : SourcePath.width (detour rounds).parts = 5 * rounds + 2 := by
    induction rounds with
    | zero => rfl
    | succ rounds ih =>
      have hnext : SourcePath.width (detour (rounds + 1)).parts =
          2 + (3 + SourcePath.width (detour rounds).parts) := rfl
      omega
  have hroot : (detour rounds).root.utf8ByteSize = 0 := rfl
  rw [SourcePath.text, SourcePath.utf8ByteSize_textWith, steps_detour, List.append_nil]
  omega

theorem mem_detour {rounds : Nat} {name : String} (h : name ∈ (detour rounds).parts) :
    name = "a" ∨ name = ".." := by
  simp only [detour, List.mem_append, List.mem_flatten, List.mem_replicate,
    List.mem_singleton] at h
  rcases h with ⟨names, ⟨-, rfl⟩, hname⟩ | rfl
  · simpa using hname
  · exact Or.inl rfl

theorem proper_detour (rounds : Nat) : (detour rounds).Proper where
  root := by simp [detour]
  parts name hname := by
    rcases mem_detour hname with rfl | rfl <;> decide

/-- The directory at the end of a detour can be looked up, as long as the detour is not too long. -/
theorem lookup_detour {rounds : Nat} (h : 5 * rounds + 1 < FileTree.pathLimit) :
    archive.lookup (detour rounds) = .ok .directory := by
  have hnul : '\x00' ∉ (detour rounds).text.toList := by
    rw [SourcePath.mem_text_iff (by decide) (by decide)]
    rintro (hroot | ⟨name, hname, hin⟩)
    · simp [detour] at hroot
    · rcases mem_detour hname with rfl | rfl <;> exact absurd hin (by decide)
  have hlong : ¬ FileTree.pathLimit ≤ (detour rounds).text.utf8ByteSize := by
    rw [utf8ByteSize_detour]
    omega
  rw [FileTree.lookup_eq_follow hnul, if_neg hlong, follow_detour]

theorem liesBelow_detour (rounds : Nat) :
    LiesBelow archive standardExclusions (detour rounds) [] "y.feature" ∧
      LiesBelow archive standardExclusions (detour rounds) ["docs"] "x.feature" := by
  constructor
  · exact ⟨⟨[], by rw [place_detour]; decide⟩, by decide, by decide⟩
  · exact ⟨⟨[], by rw [place_detour]; decide⟩, by decide, by decide⟩

/-! The longest detour that can be looked up ends in a directory, and its text has 4091 octets. -/

theorem lookup_longest : archive.lookup (detour 818) = .ok .directory := lookup_detour (by decide)

theorem map_ofText_longest : [(detour 818).text].map SourcePath.ofText = [detour 818] := by
  rw [List.map_singleton, SourcePath.ofText_text (proper_detour 818)]

theorem utf8ByteSize_longest (names : List String) :
    ((detour 818).textWith names).utf8ByteSize = 4091 + SourcePath.width names := by
  have hsteps : (detour 818).steps ≠ [] := by
    rw [steps_detour]
    exact parts_detour_ne_nil 818
  rw [SourcePath.utf8ByteSize_textWith_of_steps hsteps, utf8ByteSize_detour]

/-- The directory at its end can be listed. -/
theorem reaches_longest : Reaches archive (detour 818) [] [] := by
  refine reaches_nil_iff.2 (isListed_iff.2 ⟨follow_detour 818, rfl, ?_⟩)
  rw [utf8ByteSize_longest]
  decide

/-- The directory below that cannot. -/
theorem not_reaches_longest : ¬ Reaches archive (detour 818) [] ["docs"] := by
  intro h
  obtain ⟨-, -, hshort⟩ := isListed_iff.1 (h ["docs"] (List.prefix_refl _))
  rw [utf8ByteSize_longest] at hshort
  exact absurd hshort (by decide)

/-- Of the two documents below its end, one is found. -/
theorem paths_longest :
    paths archive standardExclusions ([(detour 818).text].map SourcePath.ofText) =
      .ok [(detour 818).below ["y.feature"]] := by
  rw [map_ofText_longest]
  refine paths_eq_ok wellFormed_archive.toWellNamed (by simpa using proper_detour 818)
    (by simpa using admits_of_eq_ok lookup_longest) (List.pairwise_singleton ..) fun q => ?_
  rw [mem_found_iff_reaches]
  constructor
  · intro hq
    rw [List.mem_singleton.1 hq]
    exact Or.inr ⟨_, List.mem_singleton_self _, lookup_longest, [], "y.feature", rfl,
      (liesBelow_detour 818).1, reaches_longest⟩
  · rintro (⟨hq, hnot⟩ | ⟨p, hp, -, dirs, name, rfl, hlies, hreaches⟩)
    · rw [List.mem_singleton.1 hq] at hnot
      exact absurd lookup_longest hnot
    · rw [List.mem_singleton.1 hp] at hlies hreaches ⊢
      rcases hlies.of_archive (place_detour 818) with hnames | hnames
      · rw [hnames, List.mem_singleton]
      · have hdocs : dirs ++ [name] = ["docs"] ++ ["x.feature"] := hnames
        obtain ⟨rfl, -⟩ := List.append_inj' hdocs rfl
        exact absurd hreaches not_reaches_longest

/-- The document that is found has too long a text. -/
theorem lookup_below_longest :
    archive.lookup ((detour 818).below ["y.feature"]) = .error .nameTooLong := by
  have hbelow : (detour 818).below ["y.feature"] ∈
      documentsBelow archive standardExclusions (detour 818) :=
    mem_documentsBelow_iff.2 ⟨[], "y.feature", rfl, (liesBelow_detour 818).1, reaches_longest⟩
  have htext : ((detour 818).below ["y.feature"]).text = (detour 818).textWith ["y.feature"] := by
    have hsteps : ((detour 818).below ["y.feature"]).steps = (detour 818).steps ++ ["y.feature"] :=
      by simp [SourcePath.steps, SourcePath.below, parts_detour_ne_nil]
    rw [SourcePath.text, SourcePath.textWith, hsteps, List.append_nil]
    rfl
  obtain ⟨octets, hlookup⟩ :=
    lookup_of_mem_documentsBelow wellFormed_archive lookup_longest hbelow
  rw [hlookup, htext, utf8ByteSize_longest]
  rfl

/-- **Discovery may pass over a document, and refuse what it gave.** At the end of a long way round
to a directory, the document in the directory below is not found, though it lies there; the other
one is found, and refused as too long when it is given. -/
theorem paths_detour :
    (¬ ∀ (t : FileTree) (excluded texts : List String) (qs : List SourcePath), t.WellFormed →
      paths t excluded (texts.map SourcePath.ofText) = .ok qs →
        ∀ q, q ∈ qs ↔ Meant t excluded (texts.map SourcePath.ofText) q) ∧
    (¬ ∀ (t : FileTree) (excluded texts : List String) (qs : List SourcePath), t.WellFormed →
      paths t excluded (texts.map SourcePath.ofText) = .ok qs → paths t excluded qs = .ok qs) ∧
    Meant archive standardExclusions ([(detour 818).text].map SourcePath.ofText)
      ((detour 818).below ["docs", "x.feature"]) ∧
    paths archive standardExclusions ([(detour 818).text].map SourcePath.ofText) =
      .ok [(detour 818).below ["y.feature"]] ∧
    paths archive standardExclusions [(detour 818).below ["y.feature"]] = .error .nameTooLong := by
  have hmeant : Meant archive standardExclusions ([(detour 818).text].map SourcePath.ofText)
      ((detour 818).below ["docs", "x.feature"]) := by
    rw [map_ofText_longest]
    exact Or.inr ⟨detour 818, List.mem_singleton_self _, lookup_longest, ["docs"], "x.feature", rfl,
      (liesBelow_detour 818).2⟩
  have hrefused : paths archive standardExclusions [(detour 818).below ["y.feature"]] =
      .error .nameTooLong := by
    rw [paths, List.mapM_cons, expand, isDirectory, lookup_below_longest]
    rfl
  refine ⟨fun hall => ?_, fun hall => ?_, hmeant, paths_longest, hrefused⟩
  · have hmem := (hall archive standardExclusions [(detour 818).text] _ wellFormed_archive
      paths_longest _).2 hmeant
    exact absurd (SourcePath.below_inj (List.mem_singleton.1 hmem)) (by decide)
  · have hagain := hall archive standardExclusions [(detour 818).text] _ wellFormed_archive
      paths_longest
    rw [hrefused] at hagain
    cases hagain

end FeatureAudit.Discovery
