import FeatureAudit.Proofs.Config.Resolution
import FeatureAudit.Proofs.Config.Usable

/-!
# Written documents are read back

A document is read from many values, because flags and numbers may be written in several ways and
fields may be left out. Written again it is a table with every field in its plain form, and that
table stands for the same document and gives the same configuration (`Document.write_fixed`).

* `Document.read?_eq_some_iff`: a document is read from a value exactly if the value has the shape of
  a document and every field of this document stands in its place.
* `ofValue_of_document`: what a value gives depends on its document alone. The empty table is no
  exception, although it is answered without being read.
-/

set_option autoImplicit false

namespace FeatureAudit.Config

/-! ## Fields -/

section Fields

variable {α β : Type}

theorem field?_of_get? {default : α} {read? : Value → Option α} {es : Entries} {name : String}
    {v : Value} (h : Entries.get? es name = some v) : field? default read? es name = read? v := by
  rw [field?, h]

/-- What is written item by item is read back item by item. -/
theorem mapM_map_eq_some {write : α → β} {read? : β → Option α}
    (h : ∀ a, read? (write a) = some a) (as : List α) : (as.map write).mapM read? = some as := by
  induction as with
  | nil => rfl
  | cons a as ih =>
    rw [List.map_cons, List.mapM_cons, h a, ih]
    rfl

theorem texts?_ofTexts (ts : List String) : texts? (ofTexts ts) = some ts := by
  have htext : ∀ s, Value.asText? (.text s) = some s := fun _ => rfl
  exact mapM_map_eq_some htext ts

/-- A field that is not given is written as null, which no field that is given is. -/
theorem optional?_ofOptional {write : α → Value} {read? : Value → Option α}
    (h : ∀ a, read? (write a) = some a) (hnull : ∀ a, (write a).isNull = false) (o : Option α) :
    optional? read? (ofOptional write o) = some o := by
  cases o with
  | none => rfl
  | some a =>
    rw [ofOptional, optional?, h a]
    · rfl
    · intro hwrite
      simpa [hwrite, Value.isNull] using hnull a

theorem override?_write [FieldReader] (o : Override) : override? o.write = some o := by
  have htext : ∀ s, Value.asText? (.text s) = some s := fun _ => rfl
  cases o with
  | toggle enabled => exact congrArg (Option.map Override.toggle) (FieldReader.flag?_flag enabled)
  | fields enabled severity alternatives =>
    have henabled := optional?_ofOptional FieldReader.flag?_flag (fun _ => rfl) enabled
    have hseverity := optional?_ofOptional htext (fun _ => rfl) severity
    have halternatives := optional?_ofOptional texts?_ofTexts (fun _ => rfl) alternatives
    rw [Override.write, override?, field?_of_get? rfl, field?_of_get? rfl, field?_of_get? rfl,
      henabled, hseverity, halternatives]
    rfl

theorem overrides?_ofOverrides [FieldReader] (os : List (String × Override)) :
    overrides? (ofOverrides os) = some os := by
  have hentry : ∀ e : String × Override,
      (override? e.2.write).map (fun o => (e.1, o)) = some e := fun e => by
    rw [override?_write]
    rfl
  exact mapM_map_eq_some hentry os

end Fields

/-! ## Documents -/

namespace Document

section Reading

variable [FieldReader]

/-- At most one document stands in the places of a value. -/
theorem ReadFrom.unique {v : Value} {d d' : Document} (h : d.ReadFrom v) (h' : d'.ReadFrom v) :
    d = d' := by
  have hlimit : d.limit = d'.limit := funext fun t => Option.mem_unique (h.limit t) (h'.limit t)
  obtain ⟨⟩ := d
  obtain ⟨⟩ := d'
  rw [mk.injEq]
  exact ⟨Option.mem_unique h.disabled h'.disabled, Option.mem_unique h.tagQuality h'.tagQuality,
    Option.mem_unique h.antiPatterns h'.antiPatterns, Option.mem_unique h.priority h'.priority,
    Option.mem_unique h.type h'.type, Option.mem_unique h.status h'.status,
    Option.mem_unique h.lowValue h'.lowValue, hlimit,
    Option.mem_unique h.uiPatterns h'.uiPatterns,
    Option.mem_unique h.implementationPatterns h'.implementationPatterns,
    Option.mem_unique h.pronouns h'.pronouns, Option.mem_unique h.conjunctions h'.conjunctions⟩

/-- A document is read from a value exactly if the value has the shape of a document and the fields
of this document stand in their places. -/
theorem read?_eq_some_iff {v : Value} {d : Document} :
    read? v = some d ↔ WellShaped v ∧ d.ReadFrom v := by
  constructor
  · intro h
    exact ⟨wellShaped_of_read? h, readFrom_of_read? h⟩
  · rintro ⟨hshape, hfrom⟩
    obtain ⟨d', hd'⟩ := Option.isSome_iff_exists.1 (isSome_read?_of_wellShaped hshape)
    rw [hd', (readFrom_of_read? hd').unique hfrom]

/-- Every field is written in its own place. -/
theorem readFrom_write (d : Document) : d.ReadFrom d.write where
  disabled := (field?_of_get? rfl).trans (texts?_ofTexts _)
  tagQuality := (field?_of_get? rfl).trans (overrides?_ofOverrides _)
  antiPatterns := (field?_of_get? rfl).trans (overrides?_ofOverrides _)
  priority := (field?_of_get? rfl).trans (texts?_ofTexts _)
  type := (field?_of_get? rfl).trans (texts?_ofTexts _)
  status := (field?_of_get? rfl).trans (texts?_ofTexts _)
  lowValue := (field?_of_get? rfl).trans (texts?_ofTexts _)
  limit t := by
    have hget : Entries.get? (sectionOf d.write "thresholds") t.name =
        some (ofOptional .integer (d.limit t)) := by
      cases t <;> rfl
    exact (field?_of_get? hget).trans
      (optional?_ofOptional FieldReader.limit?_integer (fun _ => rfl) _)
  uiPatterns := (field?_of_get? rfl).trans (texts?_ofTexts _)
  implementationPatterns := (field?_of_get? rfl).trans (texts?_ofTexts _)
  pronouns := (field?_of_get? rfl).trans (texts?_ofTexts _)
  conjunctions := (field?_of_get? rfl).trans (texts?_ofTexts _)

theorem wellShaped_write (d : Document) : WellShaped d.write := by
  refine (readFrom_write d).wellShaped rfl ?_
  have hfits : ∀ {name : String} {es : Entries},
      Entries.get? d.write.entries name = some (.table es) → Fits entries? d.write.entries name :=
    fun hget v hv => by
      rw [Option.some_inj.1 (hv.symm.trans hget)]
      rfl
  simp only [List.forall_mem_cons, List.not_mem_nil, false_implies, implies_true, and_true]
  exact ⟨hfits rfl, hfits rfl, hfits rfl, hfits rfl⟩

/-- What is written is read back. -/
theorem read?_write (d : Document) : read? d.write = some d :=
  read?_eq_some_iff.2 ⟨wellShaped_write d, readFrom_write d⟩

end Reading

/-- The document in which no field is given. -/
def blank : Document where
  disabled := []
  tagQuality := []
  antiPatterns := []
  priority := []
  type := []
  status := []
  lowValue := []
  limit := fun _ => none
  uiPatterns := []
  implementationPatterns := []
  pronouns := []
  conjunctions := []

/-- It is the document of the empty table. -/
theorem read?_empty [FieldReader] : read? (.table []) = some blank := by
  have hlimit : limitsIn (Threshold.all.map fun t => (t, none)) = fun _ => none := by
    funext t
    cases t <;> rfl
  have hread : read? (.table []) =
      some { blank with limit := limitsIn (Threshold.all.map fun t => (t, none)) } := rfl
  rw [hread, hlimit]
  rfl

end Document

/-! ## Configurations -/

/-! The standard values are kept out of the next lemmas, so that they are not evaluated. -/

theorem orElse_nil {α : Type} (default : List α) : orElse [] default = default := rfl

theorem withOverrides_nil (t : Taxonomy) : t.withOverrides [] [] [] = t := rfl

theorem vocabulary_orElse_nil (v : Vocabulary) :
    (⟨orElse [] v.uiPhrases, orElse [] v.implementationPhrases, orElse [] v.pronouns,
      orElse [] v.conjunctions⟩ : Vocabulary) = v := rfl

/-- A document in which no field is given changes nothing. -/
theorem ofDocument_blank [PatternEngine] : ofDocument .blank = standard := by
  have hthreshold : resolveThreshold .blank = Threshold.standard := rfl
  have htaxonomy : resolveTaxonomy .blank = Taxonomy.standard := withOverrides_nil _
  have hlowValue : resolveLowValue .blank = Criteria.tagsOf Criteria.standardLowValue :=
    orElse_nil _
  have hvocabulary : resolveVocabulary .blank = Vocabulary.standard := vocabulary_orElse_nil _
  have hsettings : resolveSettings .blank = standardSetting := rfl
  rw [ofDocument, hthreshold, htaxonomy, hlowValue, hvocabulary, hsettings]
  rfl

theorem documentNotices_blank [PatternEngine] : documentNotices .blank = [] := rfl

/-- What a value gives depends on its document alone. -/
theorem ofValue_of_document [FieldReader] [PatternEngine] {v : Value} {d : Document}
    (h : Document.read? v = some d) :
    ofValue v = match abort? d with
      | some cause => .error cause
      | none => .ok (ofDocument d, documentNotices d) := by
  cases htruthy : v.isTruthy with
  | true =>
    cases hgood : abort? d with
    | none => simp only [ofValue, if_pos htruthy, h, hgood]
    | some cause => simp only [ofValue, if_pos htruthy, h, hgood]
  | false =>
    -- the empty table is answered unread, as its document would have it
    obtain rfl := eq_nil_of_not_isTruthy h htruthy
    obtain rfl : Document.blank = d := Option.some_inj.1 (Document.read?_empty.symm.trans h)
    have hgood : abort? .blank = none := rfl
    rw [hgood, ofDocument_blank, documentNotices_blank]
    rfl

/-- **Written documents are fixed.** The table that is written for the document of a value stands for
the same document, and both give the same configuration with the same notices, or end all work for
the same cause. Unless a pattern ends all work it is the configuration of the document. The document
in which no field is given, written or not, gives the standard configuration without a notice. -/
theorem Document.write_fixed [FieldReader] [PatternEngine] {v : Value} {d : Document}
    (h : Document.read? v = some d) :
    Document.read? d.write = some d ∧
      ofValue d.write = ofValue v ∧
      (abort? d = none → ofValue v = .ok (ofDocument d, documentNotices d)) ∧
      Document.read? (.table []) = some .blank ∧
      ofValue (.table []) = .ok (standard, []) ∧
      ofValue Document.blank.write = .ok (standard, []) := by
  have hwritten : ofValue Document.blank.write = .ok (standard, []) := by
    have hgood : abort? .blank = none := rfl
    rw [ofValue_of_document (Document.read?_write .blank), hgood, ofDocument_blank,
      documentNotices_blank]
  refine ⟨Document.read?_write d, ?_, fun hgood => ?_, Document.read?_empty, rfl, hwritten⟩
  · rw [ofValue_of_document h, ofValue_of_document (Document.read?_write d)]
  · rw [ofValue_of_document h, hgood]

/-- A value with flags as words and numbers, numbers as text and flags, fields that are null, and
entries that no document has. -/
def loose : Value :=
  .table
    [("colour", .text "red"),
      ("thresholds", .table
        [("max_steps", .text " +07.0 "), ("min_steps", .flag true), ("max_tags", .null)]),
      ("warnings", .table
        [("tag_quality", .table
          [("tag_typo", .text "Off"),
            ("low_value_tag", .table
              [("alternatives", .null), ("enabled", .integer 1), ("note", .null)])])])]

/-- The document that is read from it. -/
def looseDocument : Document where
  disabled := []
  tagQuality := [("tag_typo", .toggle false), ("low_value_tag", .fields (some true) none none)]
  antiPatterns := []
  priority := []
  type := []
  status := []
  lowValue := []
  limit := limitsIn [(.maxSteps, some 7), (.minSteps, some 1), (.minExamples, none),
    (.maxTags, none), (.maxScenarioNameLength, none), (.maxStepLength, none)]
  uiPatterns := []
  implementationPatterns := []
  pronouns := []
  conjunctions := []

theorem Document.write_fixed_loose : Document.read? loose = some looseDocument ∧
    Document.read? looseDocument.write = some looseDocument ∧
    ofValue looseDocument.write = ofValue loose ∧
    Entries.get? (sectionOf looseDocument.write "thresholds") "max_steps" = some (.integer 7) ∧
    ∃ c notices, ofValue looseDocument.write = .ok (c, notices) ∧ c.threshold .maxSteps = 7 ∧
      (c.setting .tagTypo).enabled = false := by
  have hread : Document.read? loose = some looseDocument := rfl
  obtain ⟨hfixed, hsame, hgiven, -⟩ := Document.write_fixed hread
  refine ⟨hread, hfixed, hsame, rfl, _, _, hsame.trans (hgiven rfl), ?_, ?_⟩
  · decide +kernel
  · decide +kernel

end FeatureAudit.Config
