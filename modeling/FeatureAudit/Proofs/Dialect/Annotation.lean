import FeatureAudit.Dialect

/-!
# What the signals of a document add to its feature

Signals are gathered line by line, so those of two lists of lines are joined by `Signals.or`
(`Signals.ofLines_append`), and each is a search through the lines (`Signals.any_ofLines`). All that
they do to a feature is to give it notes (`annotate_eq`), each of them once and only if it applies
(`mem_notes_iff`).
-/

set_option autoImplicit false

namespace FeatureAudit

/-! ## Entries -/

namespace Entries

theorem put_of_notMem {m : Entries} {name : String} (h : name ∉ m.map Prod.fst) (v : Value) :
    put m name v = m ++ [(name, v)] := by
  induction m with
  | nil => rfl
  | cons e m ih =>
    obtain ⟨hne, hrest⟩ := not_or.1 (mt List.mem_cons.2 h)
    have hkey : (e.1 == name) = false := beq_eq_false_iff_ne.2 (Ne.symm hne)
    rw [put, hkey, if_neg Bool.false_ne_true, ih hrest, List.cons_append]

/-- Entries with new names, all different, are added as they are. -/
theorem foldl_put {m es : Entries} (h : ((m ++ es).map Prod.fst).Nodup) :
    es.foldl (fun m (name, v) => put m name v) m = m ++ es := by
  induction es generalizing m with
  | nil => rw [List.foldl_nil, List.append_nil]
  | cons e es ih =>
    obtain ⟨name, v⟩ := e
    have hnew : name ∉ m.map Prod.fst := by
      intro hmem
      rw [List.map_append, List.nodup_append] at h
      exact h.2.2 _ hmem _ (List.mem_cons_self ..) rfl
    rw [List.append_cons] at h ⊢
    rw [List.foldl_cons, ← ih h, ← put_of_notMem hnew]

end Entries

namespace Dialect

/-! ## Signals -/

namespace Signals

theorem none_or (s : Signals) : none.or s = s := by simp [none, or]

theorem or_none (s : Signals) : s.or none = s := by simp [none, or]

theorem or_assoc (a b c : Signals) : (a.or b).or c = a.or (b.or c) := by simp [or, Bool.or_assoc]

theorem foldl_or (s : Signals) (ls : List String) :
    ls.foldl (fun s l => s.or (ofLine l.toList)) s = s.or (ofLines ls) := by
  induction ls generalizing s with
  | nil => exact (or_none s).symm
  | cons l ls ih =>
    have hcons : ofLines (l :: ls) = (none.or (ofLine l.toList)).or (ofLines ls) := by
      rw [ofLines, List.foldl_cons, ih]
    rw [List.foldl_cons, ih, hcons, none_or, or_assoc]

theorem ofLines_cons (l : String) (ls : List String) :
    ofLines (l :: ls) = (ofLine l.toList).or (ofLines ls) := by
  rw [ofLines, List.foldl_cons, foldl_or, none_or]

/-- The signals of lists of lines that are put together are those of either. -/
theorem ofLines_append (xs ys : List String) :
    ofLines (xs ++ ys) = (ofLines xs).or (ofLines ys) := by
  rw [ofLines, List.foldl_append, foldl_or]
  rfl

/-- A signal is there if some line gives it. -/
theorem any_ofLines {signal : Signals → Bool} (hnone : signal none = false)
    (hor : ∀ a b, signal (a.or b) = (signal a || signal b)) (ls : List String) :
    signal (ofLines ls) = ls.any fun l => signal (ofLine l.toList) := by
  induction ls with
  | nil => exact hnone
  | cons l ls ih => rw [ofLines_cons, hor, ih, List.any_cons]

end Signals

/-! ## Notes -/

/-- The notes on a document in the dialect. -/
inductive Note where
  /-- It is in the dialect. -/
  | dialect
  /-- It makes requests. -/
  | requestSteps
  /-- It has placeholders for the shape of a response. -/
  | schemaAssertions
  /-- It has data in braces. -/
  | embeddedData
  /-- It matches responses. -/
  | responseMatching
  /-- It has a piece of script. -/
  | embeddedScript
  /-- A scenario has a tag that tells the method of a request. -/
  | apiOperations
  deriving DecidableEq, Repr

namespace Note

/-- The name of a note. -/
def name : Note → String
  | .dialect => "dialect"
  | .requestSteps => "hasRequestSteps"
  | .schemaAssertions => "hasSchemaAssertions"
  | .embeddedData => "hasEmbeddedData"
  | .responseMatching => "hasResponseMatching"
  | .embeddedScript => "hasEmbeddedScript"
  | .apiOperations => "hasApiOperations"

/-- All notes. -/
def all : List Note :=
  [.dialect, .requestSteps, .schemaAssertions, .embeddedData, .responseMatching, .embeddedScript,
    .apiOperations]

theorem mem_all (n : Note) : n ∈ all := by cases n <;> decide

/-- Whether a note applies to a feature with signals. -/
def applies (f : Feature) (s : Signals) : Note → Bool
  | .dialect => true
  | .requestSteps => s.requestSteps
  | .schemaAssertions => s.schemaAssertions
  | .embeddedData => s.embeddedData
  | .responseMatching => s.responseMatching
  | .embeddedScript => s.embeddedScript
  | .apiOperations => hasApiTag f

end Note

theorem notes_eq (f : Feature) (s : Signals) :
    notes f s = (Note.all.filter (Note.applies f s)).map fun n => (n.name, .flag true) := by
  have hlist : [("dialect", true), ("hasRequestSteps", s.requestSteps),
      ("hasSchemaAssertions", s.schemaAssertions), ("hasEmbeddedData", s.embeddedData),
      ("hasResponseMatching", s.responseMatching), ("hasEmbeddedScript", s.embeddedScript),
      ("hasApiOperations", hasApiTag f)] = Note.all.map fun n => (n.name, n.applies f s) := rfl
  rw [notes, hlist, List.filter_map, List.map_map]
  refine List.map_congr_left fun n hn => ?_
  have happlies : n.applies f s = true := (List.mem_filter.1 hn).2
  simp [happlies]

theorem mem_notes_iff {f : Feature} {s : Signals} {name : String} {v : Value} :
    (name, v) ∈ notes f s ↔ v = .flag true ∧ ∃ n : Note, n.name = name ∧ n.applies f s = true := by
  rw [notes_eq, List.mem_map]
  constructor
  · rintro ⟨n, hn, hentry⟩
    obtain ⟨rfl, rfl⟩ := Prod.mk.inj hentry
    exact ⟨rfl, n, rfl, (List.mem_filter.1 hn).2⟩
  · rintro ⟨rfl, n, rfl, happlies⟩
    exact ⟨n, List.mem_filter.2 ⟨n.mem_all, happlies⟩, rfl⟩

theorem nodup_notes (f : Feature) (s : Signals) : ((notes f s).map Prod.fst).Nodup := by
  have hnames : (Note.all.map Note.name).Nodup := by decide
  rw [notes_eq, List.map_map]
  exact hnames.sublist (List.filter_sublist.map Note.name)

/-! ## Annotation -/

/-- All that annotating a feature does: its metadata grows if the signals tell the dialect. -/
theorem annotate_eq (f : Feature) (s : Signals) : annotate f s =
    { f with metadata :=
        if s.detected then (f.withMetadata (notes f s)).metadata else f.metadata } := by
  unfold annotate
  split <;> rfl

/-- What annotating a feature leaves alone. -/
theorem annotate_content (f : Feature) (s : Signals) :
    (annotate f s).path = f.path ∧ (annotate f s).name = f.name ∧
      (annotate f s).description = f.description ∧ (annotate f s).tags = f.tags ∧
      (annotate f s).scenarios = f.scenarios := by
  rw [annotate_eq]
  exact ⟨rfl, rfl, rfl, rfl, rfl⟩

theorem metadata_annotate {f : Feature} (h : f.metadata = []) (s : Signals) :
    (annotate f s).metadata = if s.detected then notes f s else [] := by
  have hnotes : (f.withMetadata (notes f s)).metadata = notes f s := by
    rw [Feature.withMetadata, h, Entries.foldl_put (nodup_notes f s)]
    rfl
  rw [annotate_eq, hnotes, h]

end Dialect

end FeatureAudit
