import FeatureAudit.Corpus.SourcePath
import FeatureAudit.Proofs.Text.Blank
import FeatureAudit.Proofs.Text.Lines
import FeatureAudit.Proofs.Text.Order

/-!
# The text of a path tells the path

Paths that are read from texts have proper names: none is empty, a single point, or holds a slash.
Such a path is read back from its text (`ofText_text`), so two of them with the same text are the
same path (`text_inj`); and the order of paths tells any two of them apart (`eq_of_compare`).
-/

set_option autoImplicit false

namespace FeatureAudit

/-- A name that can stand between the slashes of a path. -/
def IsName (name : String) : Prop := name ≠ "" ∧ name ≠ "." ∧ '/' ∉ name.toList

instance (name : String) : Decidable (IsName name) := inferInstanceAs (Decidable (_ ∧ _ ∧ _))

namespace SourcePath

/-- A path whose parts are names, below one of the roots. -/
structure Proper (p : SourcePath) : Prop where
  root : p.root ∈ ["", "/", "//"]
  parts : ∀ name ∈ p.parts, IsName name

/-! ## Paths of texts -/

theorem isName_of_mem_namesOf {cs : List Char} {name : String} (h : name ∈ namesOf cs) :
    IsName name := by
  rw [namesOf, List.mem_filter, List.mem_map] at h
  obtain ⟨⟨piece, hpiece, rfl⟩, hne⟩ := h
  simp only [Bool.and_eq_true, bne_iff_ne] at hne
  refine ⟨hne.1, hne.2, fun hslash => ?_⟩
  rw [String.toList_ofList] at hslash
  exact absurd (Text.mem_splitOnP_not hpiece '/' hslash) (by simp)

theorem rootOf_mem (cs : List Char) : rootOf cs ∈ ["", "/", "//"] := by
  unfold rootOf
  split <;> simp

theorem proper_ofText (s : String) : (ofText s).Proper :=
  ⟨rootOf_mem s.toList, fun _ => isName_of_mem_namesOf⟩

theorem proper_of_mem_map_ofText {texts : List String} : ∀ p ∈ texts.map ofText, p.Proper := by
  intro p hp
  obtain ⟨text, -, rfl⟩ := List.mem_map.1 hp
  exact proper_ofText text

theorem Proper.below {p : SourcePath} (h : p.Proper) {names : List String}
    (hnames : ∀ name ∈ names, IsName name) : (p.below names).Proper where
  root := h.root
  parts name hname := (List.mem_append.1 hname).elim (h.parts name) (hnames name)

theorem below_inj {p : SourcePath} {names more : List String} (h : p.below names = p.below more) :
    names = more :=
  List.append_cancel_left (congrArg parts h)

/-! ## Texts of paths -/

/-- The characters of the names with slashes between them. -/
def body (p : SourcePath) : List Char := ['/'].intercalate (p.parts.map String.toList)

theorem steps_of_isPoint {p : SourcePath} (h : p.root = "" ∧ p.parts = []) : p.steps = ["."] := by
  rw [steps, if_pos (by simpa using h)]

theorem steps_eq_parts {p : SourcePath} (h : ¬ (p.root = "" ∧ p.parts = [])) :
    p.steps = p.parts := by
  rw [steps, if_neg (by simpa using h)]

theorem text_eq (p : SourcePath) : p.text.toList =
    if p.root = "" ∧ p.parts = [] then ['.'] else p.root.toList ++ p.body := by
  rw [text, textWith, List.append_nil, String.toList_append, Text.toList_joinWith]
  split
  · rename_i h
    rw [steps_of_isPoint h, h.1]
    rfl
  · rename_i h
    rw [steps_eq_parts h]
    rfl

/-- Names are read back from what stands between slashes. -/
theorem namesOf_body {p : SourcePath} (h : p.Proper) : namesOf p.body = p.parts := by
  have hkeep : p.parts.filter (fun s => s != "" && s != ".") = p.parts := by
    refine List.filter_eq_self.2 fun name hname => ?_
    obtain ⟨hempty, hpoint, -⟩ := h.parts name hname
    simp [hempty, hpoint]
  by_cases hnil : p.parts = []
  · simp [body, namesOf, hnil]
  · have hslash : ∀ l ∈ p.parts.map String.toList, '/' ∉ l := by
      intro l hl
      obtain ⟨name, hname, rfl⟩ := List.mem_map.1 hl
      exact (h.parts name hname).2.2
    have hsplit := List.splitOn_intercalate '/' hslash (by simpa using hnil)
    rw [namesOf, body, ← List.splitOn, hsplit, List.map_map]
    simpa [Function.comp_def] using hkeep

/-- Slashes in front make no names. -/
theorem namesOf_cons_slash (cs : List Char) : namesOf ('/' :: cs) = namesOf cs := by
  simp [namesOf, List.splitOnP_cons_eq_if_modifyHead]

/-- The names of a path do not begin with a slash. -/
theorem head?_body {p : SourcePath} (h : p.Proper) : p.body.head? ≠ some '/' := by
  cases hparts : p.parts with
  | nil => simp [body, hparts]
  | cons name names =>
    obtain ⟨hempty, -, hslash⟩ := h.parts name (by simp [hparts])
    have hname : name.toList ≠ [] := fun hnil => hempty (String.toList_eq_nil_iff.1 hnil)
    have hhead : p.body.head? = name.toList.head? := by
      rw [body, hparts, List.map_cons]
      cases names with
      | nil => simp
      | cons next names =>
        rw [List.map_cons, List.intercalate_cons_cons, List.append_assoc,
          List.head?_append_of_ne_nil _ hname]
    rw [hhead]
    exact fun hfirst => hslash (List.mem_of_mem_head? hfirst)

/-- A path is read back from its text. -/
theorem ofText_text {p : SourcePath} (h : p.Proper) : ofText p.text = p := by
  have hbody := namesOf_body h
  have hrun : p.body.takeWhile (fun c => c == '/') = [] := by
    cases hcs : p.body with
    | nil => rfl
    | cons c cs =>
      have hc : c ≠ '/' := by simpa [hcs] using head?_body h
      simp [hc]
  obtain ⟨root, parts⟩ := p
  rw [ofText, text_eq]
  have hroot := h.root
  simp only [List.mem_cons, List.not_mem_nil, or_false] at hroot
  rcases hroot with rfl | rfl | rfl
  · by_cases hnil : parts = []
    · subst hnil
      rfl
    · simp [hnil, hbody, rootOf, hrun]
  · simp [namesOf_cons_slash, hbody, rootOf, hrun]
  · simp [namesOf_cons_slash, hbody, rootOf, hrun]

/-- Proper paths with the same text are the same. -/
theorem text_inj {p q : SourcePath} (hp : p.Proper) (hq : q.Proper) (h : p.text = q.text) :
    p = q := by
  rw [← ofText_text hp, ← ofText_text hq, h]

/-- The text of a name is the path below no root with that name alone. -/
theorem ofText_name {name : String} (h : IsName name) : ofText name = ⟨"", [name]⟩ := by
  have hproper : Proper ⟨"", [name]⟩ := ⟨by simp, by simpa using h⟩
  have htext : text ⟨"", [name]⟩ = name := by simp [text, textWith, steps, Text.joinWith]
  rw [← ofText_text hproper, htext]

theorem mem_body_iff {p : SourcePath} {c : Char} (hslash : c ≠ '/') :
    c ∈ p.body ↔ ∃ name ∈ p.parts, c ∈ name.toList := by
  rw [body]
  induction p.parts with
  | nil => simp
  | cons name names ih =>
    cases names with
    | nil => simp
    | cons next names =>
      rw [List.map_cons, List.map_cons, List.intercalate_cons_cons, ← List.map_cons,
        List.mem_append, List.mem_append, ih]
      simp [hslash]

/-- A character of a path other than slash and point is in its root or in one of its names. -/
theorem mem_text_iff {p : SourcePath} {c : Char} (hslash : c ≠ '/') (hpoint : c ≠ '.') :
    c ∈ p.text.toList ↔ c ∈ p.root.toList ∨ ∃ name ∈ p.parts, c ∈ name.toList := by
  rw [text_eq]
  split
  · rename_i h
    simp [h, hpoint]
  · rw [List.mem_append, mem_body_iff hslash]

/-! ## Lengths of texts -/

/-- The octets of names, each with a slash. -/
def width (names : List String) : Nat := (names.map fun n => n.utf8ByteSize + 1).sum

@[simp] theorem width_nil : width [] = 0 := rfl

@[simp] theorem width_cons (name : String) (names : List String) :
    width (name :: names) = name.utf8ByteSize + 1 + width names := by
  simp [width]

@[simp] theorem width_append (names more : List String) :
    width (names ++ more) = width names + width more := by
  simp [width]

theorem utf8ByteSize_textWith (p : SourcePath) (names : List String) :
    (p.textWith names).utf8ByteSize = p.root.utf8ByteSize + (width (p.steps ++ names) - 1) := by
  rw [textWith, String.utf8ByteSize_append]
  cases p.steps ++ names with
  | nil => rfl
  | cons first rest =>
    have hslash : "/".utf8ByteSize = 1 := rfl
    rw [Text.utf8ByteSize_joinWith_cons, hslash, width_cons, width]
    omega

/-- Every name behind the names of a path makes its text longer by itself and a slash. -/
theorem utf8ByteSize_textWith_of_steps {p : SourcePath} (hne : p.steps ≠ [])
    (names : List String) :
    (p.textWith names).utf8ByteSize = p.text.utf8ByteSize + width names := by
  obtain ⟨first, rest, hsteps⟩ := List.exists_cons_of_ne_nil hne
  rw [text, utf8ByteSize_textWith, utf8ByteSize_textWith, hsteps, List.append_nil, width_append,
    width_cons]
  omega

theorem utf8ByteSize_textWith_le_append (p : SourcePath) (names more : List String) :
    (p.textWith names).utf8ByteSize ≤ (p.textWith (names ++ more)).utf8ByteSize := by
  rw [utf8ByteSize_textWith, utf8ByteSize_textWith, ← List.append_assoc, width_append _ more]
  omega

/-- The names of a path below another are written as those of the other and the rest, but for a
point in front. -/
theorem steps_below (p : SourcePath) (names : List String) :
    (p.below names).steps = p.steps ++ names ∨
      p.steps = ["."] ∧ names ≠ [] ∧ (p.below names).steps = names := by
  by_cases hpoint : p.root = "" ∧ p.parts = []
  · by_cases hnames : names = []
    · left
      simp [hnames, below]
    · right
      refine ⟨steps_of_isPoint hpoint, hnames, ?_⟩
      rw [steps_eq_parts (by simp [below, hnames]), below, hpoint.2, List.nil_append]
  · have hbelow : ¬ ((p.below names).root = "" ∧ (p.below names).parts = []) := fun h =>
      hpoint ⟨h.1, (List.append_eq_nil_iff.1 h.2).1⟩
    left
    rw [steps_eq_parts hpoint, steps_eq_parts hbelow, below]

/-- A point in front is the only difference between the texts of a path below another. -/
theorem utf8ByteSize_textWith_below_le (p : SourcePath) (names more : List String) :
    ((p.below names).textWith more).utf8ByteSize ≤
      (p.textWith (names ++ more)).utf8ByteSize := by
  rw [utf8ByteSize_textWith, utf8ByteSize_textWith, ← List.append_assoc, width_append _ more,
    width_append _ more]
  have hroot : (p.below names).root = p.root := rfl
  rcases p.steps_below names with hsteps | ⟨hpoint, -, hsteps⟩
  · rw [hsteps, hroot]
  · rw [hsteps, hroot, width_append p.steps names]
    omega

/-! ## Order -/

instance : Std.TransCmp SourcePath.compare := Text.transCmp_on keys

/-- The keys of a path tell the path: no name can be taken for a root. -/
theorem keys_inj {p q : SourcePath} (hp : p.Proper) (hq : q.Proper) (h : p.keys = q.keys) :
    p = q := by
  have hslash : ∀ {r : SourcePath}, r.Proper → r.root ≠ "" → '/' ∈ r.root.toList := by
    intro r hr hne
    have hroot := hr.root
    simp only [List.mem_cons, List.not_mem_nil, or_false] at hroot
    rcases hroot with hroot | hroot | hroot
    · exact absurd hroot hne
    all_goals simp [hroot]
  have hapart : ∀ {p q : SourcePath}, p.Proper → q.Proper → p.keys = q.keys → p.root = "" →
      q.root = "" := by
    intro p q hp hq h hroot
    by_contra hne
    rw [keys, keys, if_pos (by simp [hroot]), if_neg (by simpa using hne)] at h
    have hname := hp.parts q.root (by simp [h])
    exact hname.2.2 (hslash hq hne)
  obtain ⟨proot, pparts⟩ := p
  obtain ⟨qroot, qparts⟩ := q
  by_cases hroot : proot = ""
  · have hroot' : qroot = "" := hapart hp hq h hroot
    subst hroot hroot'
    simpa [keys] using h
  · have hroot' : qroot ≠ "" := fun hempty => hroot (hapart hq hp h.symm hempty)
    simpa [keys, hroot, hroot'] using h

/-- The order of paths tells proper paths apart. -/
theorem eq_of_compare {p q : SourcePath} (hp : p.Proper) (hq : q.Proper)
    (h : p.compare q = .eq) : p = q :=
  keys_inj hp hq (Std.LawfulEqCmp.eq_of_compare h)

end SourcePath

end FeatureAudit
