import FeatureAudit.Config.Document

/-!
# Where the fields of a document come from

Every field of a document that can be read comes from one place of the value: from one name of one
section (`Document.readFrom_of_read?`). Nothing else of the value has an effect on it.
-/

set_option autoImplicit false

namespace FeatureAudit.Config

/-- The entries of a section of a value. A section that is not there has none. -/
def sectionOf (v : Value) (name : String) : Entries :=
  ((Entries.get? v.entries name).map Value.entries).getD []

/-- A document that is read field by field from the sections of a value. -/
structure Document.ReadFrom [FieldReader] (d : Document) (v : Value) : Prop where
  disabled : field? [] texts? (sectionOf v "warnings") "disabled" = some d.disabled
  tagQuality : field? [] overrides? (sectionOf v "warnings") "tag_quality" = some d.tagQuality
  antiPatterns : field? [] overrides? (sectionOf v "warnings") "anti_patterns" = some d.antiPatterns
  priority : field? [] texts? (sectionOf v "tags") "priority" = some d.priority
  type : field? [] texts? (sectionOf v "tags") "type" = some d.type
  status : field? [] texts? (sectionOf v "tags") "status" = some d.status
  lowValue : field? [] texts? (sectionOf v "tags") "low_value" = some d.lowValue
  limit : ∀ t : Threshold,
    field? none (optional? FieldReader.limit?) (sectionOf v "thresholds") t.name = some (d.limit t)
  uiPatterns : field? [] texts? (sectionOf v "vocabulary") "ui_patterns" = some d.uiPatterns
  implementationPatterns :
    field? [] texts? (sectionOf v "vocabulary") "implementation_patterns" =
      some d.implementationPatterns
  pronouns : field? [] texts? (sectionOf v "vocabulary") "pronouns" = some d.pronouns
  conjunctions : field? [] texts? (sectionOf v "vocabulary") "conjunctions" = some d.conjunctions

theorem entries_eq_of_entries? {v : Value} {es : Entries} (h : entries? v = some es) :
    v.entries = es := by
  cases v with
  | table es' => exact Option.some_inj.1 h
  | _ => exact absurd h (by simp [entries?])

/-- A section that is read is the section of that name. -/
theorem sectionOf_eq {v : Value} {es part : Entries} {name : String} (hes : entries? v = some es)
    (h : field? [] entries? es name = some part) : sectionOf v name = part := by
  rw [sectionOf, entries_eq_of_entries? hes]
  rw [field?] at h
  split at h
  · rename_i hnone
    rw [hnone]
    exact Option.some_inj.1 h
  · rename_i w hsome
    rw [hsome]
    exact entries_eq_of_entries? h

/-- Each of the thresholds that are read in a row has the value that is read for it. -/
theorem limitsIn_of_mapM {read? : Threshold → Option (Option Int)} {ts : List Threshold}
    {limits : List (Threshold × Option Int)}
    (h : ts.mapM (fun t => (read? t).map fun n => (t, n)) = some limits) {t : Threshold}
    (ht : t ∈ ts) : read? t = some (limitsIn limits t) := by
  induction ts generalizing limits with
  | nil => simp at ht
  | cons u ts ih =>
    simp only [List.mapM_cons, Option.bind_eq_bind, Option.bind_eq_some_iff, Option.map_eq_some_iff,
      Option.pure_def, Option.some_inj] at h
    obtain ⟨_, ⟨n, hn, rfl⟩, rest, hrest, rfl⟩ := h
    rw [limitsIn, List.lookup_cons]
    by_cases htu : t = u
    · simp [htu, hn]
    · have hmem : t ∈ ts := (List.mem_cons.1 ht).resolve_left htu
      have hne : (t == u) = false := beq_false_of_ne htu
      rw [hne, ih hrest hmem]
      rfl

/-- **Every field of a document comes from its own place.** -/
theorem Document.readFrom_of_read? [FieldReader] {v : Value} {d : Document}
    (h : Document.read? v = some d) : d.ReadFrom v := by
  unfold Document.read? at h
  obtain ⟨es, hes, h⟩ := Option.bind_eq_some_iff.1 h
  obtain ⟨warnings, hwarnings, h⟩ := Option.bind_eq_some_iff.1 h
  obtain ⟨tags, htags, h⟩ := Option.bind_eq_some_iff.1 h
  obtain ⟨thresholds, hthresholds, h⟩ := Option.bind_eq_some_iff.1 h
  obtain ⟨vocabulary, hvocabulary, h⟩ := Option.bind_eq_some_iff.1 h
  obtain ⟨disabled, hdisabled, h⟩ := Option.bind_eq_some_iff.1 h
  obtain ⟨tagQuality, htagQuality, h⟩ := Option.bind_eq_some_iff.1 h
  obtain ⟨antiPatterns, hantiPatterns, h⟩ := Option.bind_eq_some_iff.1 h
  obtain ⟨priority, hpriority, h⟩ := Option.bind_eq_some_iff.1 h
  obtain ⟨type, htype, h⟩ := Option.bind_eq_some_iff.1 h
  obtain ⟨status, hstatus, h⟩ := Option.bind_eq_some_iff.1 h
  obtain ⟨lowValue, hlowValue, h⟩ := Option.bind_eq_some_iff.1 h
  obtain ⟨limits, hlimits, h⟩ := Option.bind_eq_some_iff.1 h
  obtain ⟨uiPatterns, huiPatterns, h⟩ := Option.bind_eq_some_iff.1 h
  obtain ⟨implementationPatterns, himplementationPatterns, h⟩ := Option.bind_eq_some_iff.1 h
  obtain ⟨pronouns, hpronouns, h⟩ := Option.bind_eq_some_iff.1 h
  obtain ⟨conjunctions, hconjunctions, h⟩ := Option.bind_eq_some_iff.1 h
  obtain rfl := Option.some_inj.1 h
  obtain rfl := sectionOf_eq hes hwarnings
  obtain rfl := sectionOf_eq hes htags
  obtain rfl := sectionOf_eq hes hthresholds
  obtain rfl := sectionOf_eq hes hvocabulary
  have hall : ∀ t : Threshold, t ∈ Threshold.all := fun t => by cases t <;> decide
  exact ⟨hdisabled, htagQuality, hantiPatterns, hpriority, htype, hstatus, hlowValue,
    fun t => limitsIn_of_mapM hlimits (hall t), huiPatterns, himplementationPatterns, hpronouns,
    hconjunctions⟩

end FeatureAudit.Config
