import FeatureAudit.Corpus.FileTree
import FeatureAudit.Proofs.Corpus.SourcePath

/-!
# Looking up paths in a file tree

The names in a file tree are such that a path can be made of them, and they lack the one character
that no path may have (`WellNamed`). A look-up is refused for that character in the path and for
nothing in the tree (`lookup_eq_unusable_iff`). In a tree as it can stand on a disk (`WellFormed`),
the names of a file lead to it from every directory above it (`WellFormed.walk_above`), so that it
can be looked up below any path to its directory, unless the text becomes too long or the directory
must not be searched (`WellFormed.lookup_below`).
-/

set_option autoImplicit false

namespace FeatureAudit.FileTree

/-- The names of files can stand in a path that can be looked up. -/
structure WellNamed (t : FileTree) : Prop where
  isName : ∀ f ∈ t.files, ∀ name ∈ f.1, IsName name
  usable : ∀ f ∈ t.files, ∀ name ∈ f.1, '\x00' ∉ name.toList

/-- Going through a tree meets nothing that cannot be looked up. -/
theorem walk_ne_unusable (t : FileTree) (here names : List String) :
    t.walk here names ≠ .error .unusable := by
  fun_induction walk t here names <;> simp_all

/-- A path without the character that no path may have is followed unless it is too long. -/
theorem lookup_eq_follow {t : FileTree} {p : SourcePath} (hnul : '\x00' ∉ p.text.toList) :
    t.lookup p =
      if pathLimit ≤ p.text.utf8ByteSize then .error .nameTooLong else t.follow p [] := by
  rw [lookup, if_neg (by simpa using hnul)]

/-- A look-up is refused exactly for a path with the character that no path may have. -/
theorem lookup_eq_unusable_iff {t : FileTree} {p : SourcePath} :
    t.lookup p = .error .unusable ↔ '\x00' ∈ p.text.toList := by
  constructor
  · intro h
    by_contra hnul
    rw [lookup_eq_follow hnul] at h
    split at h
    · simp at h
    · exact walk_ne_unusable t _ _ h
  · intro h
    rw [lookup, if_pos (by simpa using h)]

/-- A look-up that gives something has gone through the names of the path. -/
theorem follow_of_lookup_eq_ok {t : FileTree} {p : SourcePath} {e : Entry}
    (h : t.lookup p = .ok e) : t.follow p [] = .ok e := by
  have hnul : '\x00' ∉ p.text.toList := fun hnul => by
    rw [lookup_eq_unusable_iff.2 hnul] at h
    cases h
  rw [lookup_eq_follow hnul] at h
  split at h
  · cases h
  · exact h

/-- A name that is too long cannot be looked up, whether or not there is a file. -/
theorem lookup_of_long_name {t : FileTree} (ht : t.get? t.current = some .directory)
    (hopen : t.maySearch t.current = true) {name : String} (hslash : '/' ∉ name.toList)
    (hnul : '\x00' ∉ name.toList) (hlong : nameLimit < name.utf8ByteSize) :
    t.lookup (SourcePath.ofText name) = .error .nameTooLong := by
  have hne : ∀ s : String, s.utf8ByteSize ≤ nameLimit → name ≠ s := by
    rintro s hs rfl
    omega
  have hname : IsName name := ⟨hne "" (by decide), hne "." (by decide), hslash⟩
  have hup : name ≠ ".." := hne ".." (by decide)
  have htext : (SourcePath.mk "" [name]).text = name := by
    simp [SourcePath.text, SourcePath.textWith, SourcePath.steps, Text.joinWith]
  rw [SourcePath.ofText_name hname, lookup_eq_follow (by rwa [htext])]
  split
  · rfl
  · simp [follow, start, SourcePath.steps, walk, ht, hopen, hname.2.1, hup, hlong]

/-! ## Following names -/

/-- Names that lead down: none of them stays or goes up. -/
def LeadDown (names : List String) : Prop := ∀ name ∈ names, name ≠ "." ∧ name ≠ ".."

section Follow

variable {t : FileTree} {here names more : List String} {name : String} {p : SourcePath}

/-- Names that lead to a directory lead on from there. -/
theorem walk_append (h : t.walk here names = .ok .directory) :
    t.walk here (names ++ more) = t.walk (settle here names) more := by
  induction names generalizing here with
  | nil => rfl
  | cons name names ih =>
    rw [walk] at h
    rw [List.cons_append, walk, settle]
    split at h
    · cases h
    · cases h
    · split at h
      · cases h
      · rename_i hopen
        rw [if_neg hopen]
        split at h
        · rename_i hstay
          rw [if_pos hstay, if_pos hstay, ih h]
        · rename_i hmove
          rw [if_neg hmove, if_neg hmove]
          split at h
          · rename_i hup
            rw [if_pos hup, if_pos hup, ih h]
          · rename_i hdown
            split at h
            · cases h
            · rename_i hshort
              rw [if_neg hdown, if_neg hshort, if_neg hdown, ih h]

/-- One name that leads down is looked up in the directory where it stands. -/
theorem walk_cons (hhere : t.get? here = some .directory) (hopen : t.maySearch here = true)
    (hdown : name ≠ "." ∧ name ≠ "..") (hshort : name.utf8ByteSize ≤ nameLimit) :
    t.walk here (name :: names) = t.walk (here ++ [name]) names := by
  rw [walk, hhere]
  simp [hopen, hdown, Nat.not_lt.2 hshort]

theorem walk_cons_of_closed (hhere : t.get? here = some .directory)
    (hclosed : t.maySearch here = false) : t.walk here (name :: names) = .error .denied := by
  rw [walk, hhere]
  simp [hclosed]

/-- A point in front of names makes no difference: the first of them is looked up in the same
directory. -/
theorem walk_point (hne : names ≠ []) : t.walk here ("." :: names) = t.walk here names := by
  obtain ⟨name, names, rfl⟩ := List.exists_cons_of_ne_nil hne
  rw [walk]
  split
  · rename_i hhere
    rw [walk, hhere]
  · rename_i hhere
    rw [walk, hhere]
  · rename_i hhere
    cases hopen : t.maySearch here with
    | true => simp
    | false => simp [walk_cons_of_closed hhere hopen]

theorem settle_append (here names more : List String) :
    settle here (names ++ more) = settle (settle here names) more := by
  induction names generalizing here with
  | nil => rfl
  | cons name names ih =>
    rw [List.cons_append, settle, settle]
    split
    · exact ih _
    · split <;> exact ih _

/-- Names that lead down are put behind. -/
theorem settle_of_leadDown (here : List String) (h : LeadDown names) :
    settle here names = here ++ names := by
  induction names generalizing here with
  | nil => simp [settle]
  | cons name names ih =>
    obtain ⟨hname, hrest⟩ := List.forall_mem_cons.1 h
    rw [settle, if_neg (by simpa using hname.1), if_neg (by simpa using hname.2), ih _ hrest,
      List.append_assoc]
    rfl

/-- A path below another is followed as the names below the other are. -/
theorem follow_below : t.follow (p.below names) more = t.follow p (names ++ more) := by
  have hstart : t.start (p.below names) = t.start p := rfl
  rw [follow, follow, hstart]
  rcases p.steps_below names with hsteps | ⟨hpoint, hnames, hsteps⟩
  · rw [hsteps, List.append_assoc]
  · rw [hsteps, hpoint, List.singleton_append, walk_point (by simp [hnames])]

theorem place_below (h : LeadDown names) : t.place (p.below names) = t.place p ++ names := by
  have hstart : t.start (p.below names) = t.start p := rfl
  have hsame : t.place (p.below names) = settle (t.start p) (p.steps ++ names) := by
    rw [place, hstart]
    rcases p.steps_below names with hsteps | ⟨hpoint, -, hsteps⟩
    · rw [hsteps]
    · rw [hsteps, hpoint, List.singleton_append, settle, if_pos (by decide)]
  rw [hsame, settle_append, settle_of_leadDown _ h, place]

/-- Names that lead down to a directory lead on from there. -/
theorem follow_append (hdown : LeadDown names) (h : t.follow p names = .ok .directory) :
    t.follow p (names ++ more) = t.walk (t.place p ++ names) more := by
  rw [follow, ← List.append_assoc, walk_append h, settle_append, settle_of_leadDown _ hdown, place]

end Follow

/-! ## Walking down -/

/-- A tree as it can stand on a disk: its names are not too long, none of them leads up, and nothing
stands below a file. -/
structure WellFormed (t : FileTree) : Prop extends WellNamed t where
  no_up : ∀ f ∈ t.files, ".." ∉ f.1
  short : ∀ f ∈ t.files, ∀ name ∈ f.1, name.utf8ByteSize ≤ nameLimit
  apart : ∀ f ∈ t.files, ∀ g ∈ t.files, f.1 <+: g.1 → f.1 = g.1

section Down

variable {t : FileTree} {here names more : List String} {octets : List UInt8}

/-- The files of a tree are what can be looked up as such. -/
theorem exists_get?_eq_file_iff :
    (∃ octets, t.get? names = some (.file octets)) ↔ names ∈ t.files.map Prod.fst := by
  have hlookup : (t.files.lookup names).isSome = true ↔ names ∈ t.files.map Prod.fst := by
    rw [List.lookup_eq_findSome?, List.isSome_findSome?, List.any_eq_true, List.mem_map]
    refine exists_congr fun f => and_congr_right fun _ => ?_
    by_cases hf : f.1 = names
    · simp [hf]
    · have hne : (names == f.1) = false := beq_false_of_ne (Ne.symm hf)
      simp [hf, hne]
  rw [← hlookup, get?]
  cases t.files.lookup names with
  | some octets => simp
  | none =>
    simp only [Option.isSome_none, Bool.false_eq_true, iff_false, not_exists]
    intro octets
    split <;> simp

theorem exists_file_of_get? (h : t.get? names = some (.file octets)) :
    ∃ f ∈ t.files, f.1 = names :=
  List.mem_map.1 (exists_get?_eq_file_iff.1 ⟨octets, h⟩)

/-- What a file lies below is a directory. -/
theorem WellFormed.get?_above (ht : t.WellFormed) (hne : names ≠ [])
    (h : t.get? (here ++ names) = some (.file octets)) : t.get? here = some .directory := by
  obtain ⟨g, hg, hnames⟩ := exists_file_of_get? h
  have hbegins : here <+: g.1 := hnames ▸ List.prefix_append here names
  have hother : here ≠ g.1 := by
    rw [hnames]
    exact fun heq => hne (List.self_eq_append_right.1 heq)
  have hnone : t.files.lookup here = none := by
    by_contra hsome
    obtain ⟨octets', hlookup⟩ := Option.ne_none_iff_exists'.1 hsome
    have hfile : t.get? here = some (.file octets') := by rw [get?, hlookup]
    obtain ⟨f, hf, rfl⟩ := exists_file_of_get? hfile
    exact hother (ht.apart f hf g hg hbegins)
  have hdirectory : t.hasDirectory here = true := by
    rw [hasDirectory, Bool.or_eq_true]
    exact Or.inr (List.any_eq_true.2 ⟨g, hg, by simpa using ⟨hbegins, Ne.symm hother⟩⟩)
  rw [get?, hnone]
  exact if_pos hdirectory

/-- The names of files lead down and are short enough. -/
theorem WellFormed.leadDown_of_get? (ht : t.WellFormed)
    (h : t.get? (here ++ names) = some (.file octets)) :
    LeadDown names ∧ ∀ name ∈ names, name.utf8ByteSize ≤ nameLimit := by
  obtain ⟨f, hf, hnames⟩ := exists_file_of_get? h
  have hsub : ∀ name ∈ names, name ∈ f.1 := fun name hname => by simp [hnames, hname]
  refine ⟨fun name hname => ⟨(ht.isName f hf name (hsub name hname)).2.1, ?_⟩,
    fun name hname => ht.short f hf name (hsub name hname)⟩
  rintro rfl
  exact ht.no_up f hf (hsub _ hname)

/-- The names of a file lead to every directory above it that can be got to. -/
theorem WellFormed.walk_above (ht : t.WellFormed) (hne : more ≠ [])
    (h : t.get? (here ++ (names ++ more)) = some (.file octets))
    (hopen : ∀ above, above <+: names → above ≠ names → t.maySearch (here ++ above) = true) :
    t.walk here names = .ok .directory := by
  induction names generalizing here with
  | nil =>
    rw [walk, ht.get?_above hne h]
  | cons name names ih =>
    obtain ⟨hdown, hshort⟩ := ht.leadDown_of_get? h
    have hhere : t.get? here = some .directory := ht.get?_above (by simp) h
    have hsearch : t.maySearch here = true := by
      have hfirst := hopen [] (List.nil_prefix ..) (by simp)
      rwa [List.append_nil] at hfirst
    rw [walk_cons hhere hsearch (hdown name (by simp)) (hshort name (by simp))]
    refine ih (by rwa [List.append_assoc]) fun above habove hother => ?_
    rw [List.append_assoc]
    exact hopen (name :: above) (List.cons_prefix_cons.2 ⟨rfl, habove⟩) (by simpa using hother)

/-- A file below a directory can be looked up there, unless its path is too long or its own
directory must not be searched. -/
theorem WellFormed.lookup_below (ht : t.WellFormed) {p : SourcePath} {dirs : List String}
    {name : String} (hdirs : t.follow p dirs = .ok .directory)
    (h : t.get? (t.place p ++ (dirs ++ [name])) = some (.file octets))
    (hnul : t.lookup (p.below (dirs ++ [name])) ≠ .error .unusable) :
    t.lookup (p.below (dirs ++ [name])) =
      if pathLimit ≤ (p.below (dirs ++ [name])).text.utf8ByteSize then .error .nameTooLong
      else if t.maySearch (t.place p ++ dirs) then .ok (.file octets)
      else .error .denied := by
  obtain ⟨hdown, hshort⟩ := ht.leadDown_of_get? h
  have hdirsDown : LeadDown dirs := fun d hd => hdown d (List.mem_append_left _ hd)
  rw [← List.append_assoc] at h
  have hhere : t.get? (t.place p ++ dirs) = some .directory := ht.get?_above (by simp) h
  have hfollow : t.follow (p.below (dirs ++ [name])) [] =
      if t.maySearch (t.place p ++ dirs) then .ok (.file octets) else .error .denied := by
    rw [follow_below, List.append_nil, follow_append hdirsDown hdirs]
    cases hopen : t.maySearch (t.place p ++ dirs) with
    | true => rw [walk_cons hhere hopen (hdown name (by simp)) (hshort name (by simp)), walk, h,
        if_pos rfl]
    | false => rw [walk_cons_of_closed hhere hopen, if_neg (by simp)]
  rw [Ne, lookup_eq_unusable_iff] at hnul
  rw [lookup_eq_follow hnul, hfollow]

end Down

/-- Reading a file is refused exactly as looking it up is. -/
theorem read_eq_unusable_iff {t : FileTree} {p : SourcePath} :
    t.read p = .error .unusable ↔ t.lookup p = .error .unusable := by
  unfold read
  split
  · simp_all
  · split
    · split <;> simp_all
    · simp_all

end FeatureAudit.FileTree
