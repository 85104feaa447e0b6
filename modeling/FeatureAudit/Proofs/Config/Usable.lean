import FeatureAudit.Config
import FeatureAudit.Config.Coercion
import FeatureAudit.Pattern.Engine
import FeatureAudit.Proofs.Config.Document
import FeatureAudit.Proofs.Text.Case

/-!
# No document makes the detectors unusable

Whatever a value holds, the configuration of it can be judged by: no threshold is below zero, and
no list that a detector looks into is empty (`ofValue_usable`). Each part of the configuration falls
back to its standard value when the document leaves nothing for it, and all parts do so when the
value is no document.

* `isSome_read?_iff`: a value is read as a document exactly if every section and every field of it
  that is there has its shape (`WellShaped`).
* `abort?_eq_none_iff`: no pattern ends all work exactly if every pattern that is refused is refused
  as not well formed.
* `usable_standard` and `usable_ofDocument`: the two configurations that a value can give.
-/

set_option autoImplicit false

namespace FeatureAudit

/-! ## Configurations to judge by -/

/-- A vocabulary with something to look for in every list, and no empty word. -/
structure Vocabulary.Usable (v : Vocabulary) : Prop where
  uiPhrases : v.uiPhrases ≠ []
  implementationPhrases : v.implementationPhrases ≠ []
  pronouns : v.pronouns ≠ []
  conjunctions : v.conjunctions ≠ []
  pronoun_ne_empty : ∀ word ∈ v.pronouns, word ≠ ""
  conjunction_ne_empty : ∀ word ∈ v.conjunctions, word ≠ ""

/-- A taxonomy with names in every list. -/
structure Taxonomy.Usable (t : Taxonomy) : Prop where
  priority : t.priority ≠ []
  type : t.type ≠ []
  status : t.status ≠ []

/-- A configuration that detectors can judge by. Every type of finding has a setting, because the
settings of a configuration are a function of the type. -/
structure Config.Usable (c : Config) : Prop where
  threshold : ∀ t, 0 ≤ c.threshold t
  taxonomy : c.taxonomy.Usable
  lowValue : c.lowValue ≠ []
  vocabulary : c.vocabulary.Usable

namespace Config

/-! ## The shape of a document -/

/-- A field of a table that can be read, if it is there. -/
def Fits {α : Type} (read? : Value → Option α) (es : Entries) (name : String) : Prop :=
  ∀ v, Entries.get? es name = some v → (read? v).isSome

/-- The fields that hold texts, each with the name of its section. -/
def textFields : List (String × String) :=
  [("warnings", "disabled"), ("tags", "priority"), ("tags", "type"), ("tags", "status"),
    ("tags", "low_value"), ("vocabulary", "ui_patterns"),
    ("vocabulary", "implementation_patterns"), ("vocabulary", "pronouns"),
    ("vocabulary", "conjunctions")]

/-- A value that has the shape of a document: a table whose sections are tables, in which every
field that is known can be read. -/
structure WellShaped [FieldReader] (v : Value) : Prop where
  table : (entries? v).isSome
  parts : ∀ name ∈ ["warnings", "tags", "thresholds", "vocabulary"], Fits entries? v.entries name
  texts : ∀ f ∈ textFields, Fits texts? (sectionOf v f.1) f.2
  overrides : ∀ name ∈ ["tag_quality", "anti_patterns"],
    Fits overrides? (sectionOf v "warnings") name
  limit : ∀ t : Threshold, Fits (optional? FieldReader.limit?) (sectionOf v "thresholds") t.name

theorem isSome_field?_iff {α : Type} {default : α} {read? : Value → Option α} {es : Entries}
    {name : String} : (field? default read? es name).isSome ↔ Fits read? es name := by
  rw [field?, Fits]
  cases Entries.get? es name with
  | none => simp
  | some v => simp

theorem isSome_bind {α β : Type} {x : Option α} {f : α → Option β} {a : α} (hx : x = some a)
    (hf : (f a).isSome) : (x >>= f).isSome := by
  rw [hx]
  exact hf

theorem isSome_mapM {α β : Type} {f : α → Option β} {xs : List α} (h : ∀ x ∈ xs, (f x).isSome) :
    (xs.mapM f).isSome := by
  induction xs with
  | nil => rfl
  | cons x xs ih =>
    obtain ⟨y, hy⟩ := Option.isSome_iff_exists.1 (h x (List.mem_cons_self ..))
    obtain ⟨ys, hys⟩ := Option.isSome_iff_exists.1 (ih fun z hz => h z (List.mem_cons_of_mem x hz))
    simp [List.mapM_cons, hy, hys]

theorem field?_eq_sectionOf {v : Value} {es : Entries} (hes : entries? v = some es) {name : String}
    (h : Fits entries? v.entries name) :
    field? [] entries? es name = some (sectionOf v name) := by
  rw [entries_eq_of_entries? hes] at h
  have hread : (field? [] entries? es name).isSome := isSome_field?_iff.2 h
  obtain ⟨part, hpart⟩ := Option.isSome_iff_exists.1 hread
  rw [hpart, sectionOf_eq hes hpart]

theorem Document.ReadFrom.wellShaped [FieldReader] {v : Value} {d : Document} (h : d.ReadFrom v)
    (htable : (entries? v).isSome)
    (hparts : ∀ name ∈ ["warnings", "tags", "thresholds", "vocabulary"],
      Fits entries? v.entries name) : WellShaped v := by
  have hfits : ∀ {α : Type} {default a : α} {read? : Value → Option α} {es : Entries}
      {name : String}, field? default read? es name = some a → Fits read? es name :=
    fun hfield => isSome_field?_iff.1 (Option.isSome_of_eq_some hfield)
  refine ⟨htable, hparts, ?_, ?_, fun t => hfits (h.limit t)⟩
  · simp only [textFields, List.forall_mem_cons, List.not_mem_nil, false_implies, implies_true,
      and_true]
    exact ⟨hfits h.disabled, hfits h.priority, hfits h.type, hfits h.status, hfits h.lowValue,
      hfits h.uiPatterns, hfits h.implementationPatterns, hfits h.pronouns, hfits h.conjunctions⟩
  · simp only [List.forall_mem_cons, List.not_mem_nil, false_implies, implies_true, and_true]
    exact ⟨hfits h.tagQuality, hfits h.antiPatterns⟩

theorem wellShaped_of_read? [FieldReader] {v : Value} {d : Document}
    (h : Document.read? v = some d) : WellShaped v := by
  have hfrom := Document.readFrom_of_read? h
  unfold Document.read? at h
  obtain ⟨es, hes, h⟩ := Option.bind_eq_some_iff.1 h
  obtain ⟨warnings, hwarnings, h⟩ := Option.bind_eq_some_iff.1 h
  obtain ⟨tags, htags, h⟩ := Option.bind_eq_some_iff.1 h
  obtain ⟨thresholds, hthresholds, h⟩ := Option.bind_eq_some_iff.1 h
  obtain ⟨vocabulary, hvocabulary, -⟩ := Option.bind_eq_some_iff.1 h
  have hfits : ∀ {part : Entries} {name : String}, field? [] entries? es name = some part →
      Fits entries? es name :=
    fun hpart => isSome_field?_iff.1 (Option.isSome_of_eq_some hpart)
  refine hfrom.wellShaped (Option.isSome_of_eq_some hes) ?_
  rw [entries_eq_of_entries? hes]
  simp only [List.forall_mem_cons, List.not_mem_nil, false_implies, implies_true, and_true]
  exact ⟨hfits hwarnings, hfits htags, hfits hthresholds, hfits hvocabulary⟩

theorem isSome_read?_of_wellShaped [FieldReader] {v : Value} (h : WellShaped v) :
    (Document.read? v).isSome := by
  obtain ⟨es, hes⟩ := Option.isSome_iff_exists.1 h.table
  have hpart : ∀ name ∈ ["warnings", "tags", "thresholds", "vocabulary"],
      field? [] entries? es name = some (sectionOf v name) := fun name hname =>
    field?_eq_sectionOf hes (h.parts name hname)
  have htexts : ∀ f ∈ textFields, ∃ ts, field? [] texts? (sectionOf v f.1) f.2 = some ts :=
    fun f hf => Option.isSome_iff_exists.1 (isSome_field?_iff.2 (h.texts f hf))
  have hoverrides : ∀ name ∈ ["tag_quality", "anti_patterns"],
      ∃ os, field? [] overrides? (sectionOf v "warnings") name = some os :=
    fun name hname => Option.isSome_iff_exists.1 (isSome_field?_iff.2 (h.overrides name hname))
  have hall : (Threshold.all.mapM fun t =>
      (field? none (optional? FieldReader.limit?) (sectionOf v "thresholds") t.name).map fun n =>
        (t, n)).isSome :=
    isSome_mapM fun t _ => by simpa using isSome_field?_iff.2 (h.limit t)
  obtain ⟨limits, hlimits⟩ := Option.isSome_iff_exists.1 hall
  simp only [List.forall_mem_cons, List.not_mem_nil, false_implies, implies_true, and_true,
    textFields] at hpart htexts hoverrides
  obtain ⟨hwarnings, htags, hthresholds, hvocabulary⟩ := hpart
  obtain ⟨⟨_, hdisabled⟩, ⟨_, hpriority⟩, ⟨_, htype⟩, ⟨_, hstatus⟩, ⟨_, hlow⟩, ⟨_, hui⟩,
    ⟨_, himplementation⟩, ⟨_, hpronouns⟩, ⟨_, hconjunctions⟩⟩ := htexts
  obtain ⟨⟨_, htagQuality⟩, ⟨_, hantiPatterns⟩⟩ := hoverrides
  unfold Document.read?
  refine isSome_bind hes (isSome_bind hwarnings (isSome_bind htags (isSome_bind hthresholds
    (isSome_bind hvocabulary ?_))))
  refine isSome_bind hdisabled (isSome_bind htagQuality (isSome_bind hantiPatterns ?_))
  refine isSome_bind hpriority (isSome_bind htype (isSome_bind hstatus (isSome_bind hlow ?_)))
  refine isSome_bind hlimits (isSome_bind hui (isSome_bind himplementation ?_))
  exact isSome_bind hpronouns (isSome_bind hconjunctions rfl)

/-- A value is read as a document exactly if it has the shape of one. -/
theorem isSome_read?_iff [FieldReader] {v : Value} : (Document.read? v).isSome ↔ WellShaped v := by
  refine ⟨fun h => ?_, isSome_read?_of_wellShaped⟩
  obtain ⟨d, hd⟩ := Option.isSome_iff_exists.1 h
  exact wellShaped_of_read? hd

/-! ## Patterns that end all work -/

/-- Whether every pattern of a document that is refused is refused as not well formed. -/
def Document.RefusesMalformedOnly [PatternEngine] (d : Document) : Prop :=
  ∀ source ∈ d.uiPatterns ++ d.implementationPatterns, ∀ fault,
    PatternEngine.read source = .error fault → fault = .malformed

theorem abort?_phrase_eq_none_iff [PatternEngine] {source : String} : Phrase.abort? source = none ↔
    ∀ fault, PatternEngine.read source = .error fault → fault = .malformed := by
  rw [Phrase.abort?]
  cases PatternEngine.read source with
  | ok p => simp
  | error fault => cases fault <;> simp [Pattern.Fault.abort?]

/-- No pattern ends all work exactly if all that are refused are not well formed. -/
theorem abort?_eq_none_iff [PatternEngine] {d : Document} :
    abort? d = none ↔ d.RefusesMalformedOnly := by
  rw [abort?, List.findSome?_eq_none_iff]
  simp only [abort?_phrase_eq_none_iff]
  rfl

/-! ## Parts of a configuration -/

theorem orElse_ne_nil {α : Type} {xs default : List α} (h : default ≠ []) :
    orElse xs default ≠ [] := by
  rw [orElse]
  split
  · exact h
  · rename_i hne
    simpa using hne

theorem forall_mem_orElse {α : Type} {P : α → Prop} {xs default : List α} (hxs : ∀ x ∈ xs, P x)
    (hdefault : ∀ x ∈ default, P x) : ∀ x ∈ orElse xs default, P x := by
  rw [orElse]
  split
  · exact hdefault
  · exact hxs

theorem replaced_ne_nil {current new : List String} (h : current ≠ []) :
    Taxonomy.replaced current new ≠ [] := by
  rw [Taxonomy.replaced]
  split <;> assumption

/-- Names in texts are not empty. -/
theorem ne_empty_of_mem_namesInAll {texts : List String} {name : String}
    (h : name ∈ namesInAll texts) : name ≠ "" := by
  obtain ⟨text, -, hin⟩ := List.mem_flatMap.1 h
  obtain ⟨cs, hcs, rfl⟩ := List.mem_map.1 hin
  have hne : cs ≠ [] := by simpa using (List.mem_filter.1 hcs).2
  rwa [Ne, ← String.toList_eq_nil_iff, String.toList_ofList]

/-- Folding leaves no name empty. -/
theorem ne_empty_of_mem_foldedWords {texts : List String} {word : String}
    (h : word ∈ foldedWords texts) : word ≠ "" := by
  obtain ⟨name, hname, rfl⟩ := List.mem_map.1 (List.mem_eraseDups.1 h)
  exact Text.fold_ne_empty (ne_empty_of_mem_namesInAll hname)

theorem standard_nonneg (t : Threshold) : 0 ≤ t.standard := by
  cases t <;> decide

/-- A threshold below zero is left out. -/
theorem resolveThreshold_nonneg (d : Document) (t : Threshold) : 0 ≤ resolveThreshold d t := by
  rw [resolveThreshold]
  split
  · exact standard_nonneg t
  · split
    · exact standard_nonneg t
    · rename_i hn
      exact Int.not_lt.1 hn

/-! ## Configurations of values -/

theorem usable_standardTaxonomy : Taxonomy.standard.Usable where
  priority := by decide +kernel
  type := by decide +kernel
  status := by decide +kernel

/-- Patterns that are read make phrases. -/
theorem readAll_ne_nil [PatternEngine] {sources : List String} (hne : sources ≠ [])
    (hread : ∀ source ∈ sources, ∃ search, PatternEngine.read source = .ok search) :
    Phrase.readAll sources ≠ [] := by
  obtain ⟨source, rest, rfl⟩ := List.exists_cons_of_ne_nil hne
  obtain ⟨search, hsearch⟩ := hread source (List.mem_cons_self ..)
  have hphrase : Phrase.read? source = some ⟨source, search⟩ := by rw [Phrase.read?, hsearch]
  exact List.ne_nil_of_mem (List.mem_filterMap.2 ⟨source, List.mem_cons_self .., hphrase⟩)

theorem usable_standardVocabulary [PatternEngine] : Vocabulary.standard.Usable where
  uiPhrases := readAll_ne_nil (List.cons_ne_nil _ _) fun source h =>
    PatternEngine.read_standard source (List.mem_append_left _ h)
  implementationPhrases := readAll_ne_nil (List.cons_ne_nil _ _) fun source h =>
    PatternEngine.read_standard source (List.mem_append_right _ h)
  pronouns := List.cons_ne_nil _ _
  conjunctions := List.cons_ne_nil _ _
  pronoun_ne_empty := by simp [Vocabulary.standard]
  conjunction_ne_empty := by simp [Vocabulary.standard]

theorem standardLowValue_ne_nil : Criteria.tagsOf Criteria.standardLowValue ≠ [] := by
  decide +kernel

theorem usable_standard [PatternEngine] : standard.Usable :=
  ⟨standard_nonneg, usable_standardTaxonomy, standardLowValue_ne_nil, usable_standardVocabulary⟩

theorem usable_resolveTaxonomy (d : Document) : (resolveTaxonomy d).Usable where
  priority := replaced_ne_nil usable_standardTaxonomy.priority
  type := replaced_ne_nil usable_standardTaxonomy.type
  status := replaced_ne_nil usable_standardTaxonomy.status

theorem usable_resolveVocabulary [PatternEngine] (d : Document) : (resolveVocabulary d).Usable where
  uiPhrases := orElse_ne_nil usable_standardVocabulary.uiPhrases
  implementationPhrases := orElse_ne_nil usable_standardVocabulary.implementationPhrases
  pronouns := orElse_ne_nil usable_standardVocabulary.pronouns
  conjunctions := orElse_ne_nil usable_standardVocabulary.conjunctions
  pronoun_ne_empty := forall_mem_orElse (fun _ h => ne_empty_of_mem_foldedWords h)
    usable_standardVocabulary.pronoun_ne_empty
  conjunction_ne_empty := forall_mem_orElse (fun _ h => ne_empty_of_mem_foldedWords h)
    usable_standardVocabulary.conjunction_ne_empty

theorem usable_ofDocument [PatternEngine] (d : Document) : (ofDocument d).Usable where
  threshold := resolveThreshold_nonneg d
  taxonomy := usable_resolveTaxonomy d
  lowValue := orElse_ne_nil standardLowValue_ne_nil
  vocabulary := usable_resolveVocabulary d

/-- **Every value gives a usable configuration**, provided that no pattern of it is refused for
another reason than that it is not well formed. A value that is not shaped as a document gives the
standard configuration. -/
theorem ofValue_usable [FieldReader] [PatternEngine] (v : Value)
    (hpatterns : ∀ d, Document.read? v = some d → d.RefusesMalformedOnly) :
    ∃ c notices, ofValue v = .ok (c, notices) ∧ c.Usable ∧ (¬ WellShaped v → c = standard) := by
  rw [ofValue]
  split
  · split
    · rename_i d hread
      have hshaped : WellShaped v := wellShaped_of_read? hread
      rw [abort?_eq_none_iff.2 (hpatterns d hread)]
      exact ⟨ofDocument d, documentNotices d, rfl, usable_ofDocument d, fun h => absurd hshaped h⟩
    · exact ⟨standard, [.invalidDocument], rfl, usable_standard, fun _ => rfl⟩
  · exact ⟨standard, [], rfl, usable_standard, fun _ => rfl⟩

/-- A value in which every part leaves nothing: limits below zero, lists of blank names, patterns
that are not well formed, and a name that is no tag. -/
def hollow : Value :=
  .table
    [("tags", .table [("priority", .list [.text " , "]), ("low_value", .list [.text "@"])]),
      ("thresholds", .table [("max_tags", .text "-3"), ("min_steps", .null)]),
      ("vocabulary", .table
        [("ui_patterns", .list [.text "(", .text "a**"]), ("pronouns", .list [.text ",", .text ""]),
          ("conjunctions", .list [.text "UND, "])])]

/-- The document that is read from it. -/
def hollowDocument : Document where
  disabled := []
  tagQuality := []
  antiPatterns := []
  priority := [" , "]
  type := []
  status := []
  lowValue := ["@"]
  limit := limitsIn [(.maxSteps, none), (.minSteps, none), (.minExamples, none),
    (.maxTags, some (-3)), (.maxScenarioNameLength, none), (.maxStepLength, none)]
  uiPatterns := ["(", "a**"]
  implementationPatterns := []
  pronouns := [",", ""]
  conjunctions := ["UND, "]

theorem ofValue_usable_hollow : Document.read? hollow = some hollowDocument ∧
    hollowDocument.RefusesMalformedOnly ∧
    ∃ c notices, ofValue hollow = .ok (c, notices) ∧ c.Usable ∧
      (¬ WellShaped hollow → c = standard) := by
  have hread : Document.read? hollow = some hollowDocument := by rfl
  have hpatterns : hollowDocument.RefusesMalformedOnly :=
    abort?_eq_none_iff.1 (by decide +kernel)
  refine ⟨hread, hpatterns, ofValue_usable hollow fun d hd => ?_⟩
  rw [hread] at hd
  rwa [← Option.some.inj hd]

end Config

end FeatureAudit
