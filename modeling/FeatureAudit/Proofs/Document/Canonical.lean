import Mathlib.Tactic.MkIffOfInductiveProp
import FeatureAudit.Document.Print
import FeatureAudit.Proofs.Document.Cells
import FeatureAudit.Proofs.Document.Paragraphs

/-!
# Canonical features and their lines

A feature is canonical when each of its texts can stand on the lines that `print` has for it: names
on keyword lines, tags on tag lines, cells in rows, and free text on lines that are nothing else
(`CanonicalFeature`). Every line that is printed for a canonical feature is then of the class that
it is printed as (`classify_tagLine` and the lemmas after it), and a text of these lines has these
lines (`isLines_print`).
-/

set_option autoImplicit false

namespace FeatureAudit.Document

/-! ## Canonical features -/

/-- A name that can stand on a keyword line. -/
@[mk_iff] structure IsName (s : String) : Prop where
  trimmed : Text.Trimmed s.toList
  unbroken : Text.Unbroken s.toList

instance (s : String) : Decidable (IsName s) :=
  decidable_of_iff _ (isName_iff s).symm

/-- The name of a tag that can stand on a tag line. -/
@[mk_iff] structure IsTagName (s : String) : Prop where
  sign : s.toList.head? = some sigil
  longer : s.toList ≠ [sigil]
  word : ∀ c ∈ s.toList, Text.isBlank c = false

instance (s : String) : Decidable (IsTagName s) :=
  decidable_of_iff _ (isTagName_iff s).symm

/-- A step as it stands on its line. -/
@[mk_iff] structure IsStepLine (l : String) : Prop where
  trimmed : Text.Trimmed l.toList
  unbroken : Text.Unbroken l.toList
  step : isStep l.toList = true

instance (l : String) : Decidable (IsStepLine l) :=
  decidable_of_iff _ (isStepLine_iff l).symm

/-- A line of free text: it bears no mark at all. -/
@[mk_iff] structure IsTextLine (l : List Char) : Prop where
  ne_nil : l ≠ []
  trimmed : Text.Trimmed l
  unbroken : Text.Unbroken l
  comment : l.head? ≠ some '#'
  row : isRow l = false
  fence : fence? l = none
  step : isStep l = false
  tags : tagTokens? l = none
  feature : headline? "Feature:" l = none
  scenario : scenarioHeadline? l = none
  examples : examplesHeadline? l = none

instance (l : List Char) : Decidable (IsTextLine l) :=
  decidable_of_iff _ (isTextLine_iff l).symm

/-- A description that can stand below a keyword line: nothing, or lines of free text with a line
feed or an empty line between neighbours. -/
def IsFreeText (d : String) : Prop := d = "" ∨ Paragraphs IsTextLine d.toList

/-- A cell that can stand in a row; a line feed in it is escaped there. -/
@[mk_iff] structure IsCell (s : String) : Prop where
  trimmed : Text.Trimmed s.toList
  breaks : ∀ c ∈ s.toList, Text.isBreak c = true → c = '\n'

instance (s : String) : Decidable (IsCell s) :=
  decidable_of_iff _ (isCell_iff s).symm

/-- Columns with names, and rows with a cell for each of them. -/
@[mk_iff] structure IsTable (headers : List String) (rows : List (List String)) : Prop where
  ne_nil : headers ≠ []
  named : ∀ h ∈ headers, h ≠ ""
  headerCells : ∀ h ∈ headers, IsCell h
  width : ∀ r ∈ rows, r.length = headers.length
  rowCells : ∀ r ∈ rows, ∀ c ∈ r, IsCell c

instance (headers : List String) (rows : List (List String)) : Decidable (IsTable headers rows) :=
  decidable_of_iff _ (isTable_iff headers rows).symm

/-- A table of examples that can be printed: it has columns, or nothing but its name. -/
@[mk_iff] structure CanonicalExample (e : Example) : Prop where
  name : IsName e.name
  table : (e.headers = [] ∧ e.rows = []) ∨ IsTable e.headers e.rows

instance (e : Example) : Decidable (CanonicalExample e) :=
  decidable_of_iff _ (canonicalExample_iff e).symm

/-- A scenario that can be printed. -/
structure CanonicalScenario (sc : Scenario) : Prop where
  name : IsName sc.name
  tags : ∀ t ∈ sc.tags, IsTagName t.name
  background : sc.kind = .background → sc.tags = []
  description : IsFreeText sc.description
  steps : ∀ l ∈ sc.steps, IsStepLine l
  outline : sc.kind ≠ .outline → sc.examples = []
  examples : ∀ e ∈ sc.examples, CanonicalExample e

/-- A feature that can be printed. -/
structure CanonicalFeature (f : Feature) : Prop where
  named : f.name ≠ ""
  name : IsName f.name
  tags : ∀ t ∈ f.tags, IsTagName t.name
  description : IsFreeText f.description
  scenarios : ∀ sc ∈ f.scenarios, CanonicalScenario sc

/-! ## Keyword lines -/

/-- A keyword line without the space that an empty name leaves at its end. -/
theorem trimChars_keywordLine {keyword name : String} (hne : keyword.toList ≠ [])
    (hkeyword : Text.Trimmed keyword.toList) (hname : Text.Trimmed name.toList) :
    Text.trimChars (keywordLine keyword name).toList =
      (keyword ++ ":").toList ++ if name = "" then [] else ' ' :: name.toList := by
  have hcolon : Text.Trimmed (keyword ++ ":").toList := by
    have hmark : Text.Trimmed [':'] := by decide
    simpa using hkeyword.append hmark hne (by simp) []
  by_cases hempty : name = ""
  · have htext : (keywordLine keyword name).toList = (keyword ++ ":").toList ++ [' '] := by
      simp [keywordLine, hempty]
    rw [htext, Text.trimChars_concat_blank (by decide), if_pos hempty, List.append_nil]
    exact hcolon
  · have htext : (keywordLine keyword name).toList =
        (keyword ++ ":").toList ++ [' '] ++ name.toList := by
      simp [keywordLine]
    have htrim := hcolon.append hname (by simp) (by simpa using hempty) [' ']
    rw [htext, htrim, if_neg hempty, List.append_assoc]
    rfl

/-- The name on a keyword line is read back. -/
theorem headline?_keywordLine (keyword : String) {name : String} (hne : keyword.toList ≠ [])
    (hkeyword : Text.Trimmed keyword.toList) (h : IsName name) :
    headline? (keyword ++ ":") (Text.trimChars (keywordLine keyword name).toList) = some name := by
  obtain ⟨hhead, hlast⟩ := Text.trimmed_iff.1 h.trimmed
  have hrest : Text.trimStart (if name = "" then [] else ' ' :: name.toList) = name.toList := by
    by_cases hempty : name = ""
    · rw [if_pos hempty, hempty]
      rfl
    · rw [if_neg hempty, Text.trimStart, List.dropWhile_cons_of_pos (by decide)]
      exact Text.trimStart_eq_self hhead
  rw [trimChars_keywordLine hne hkeyword h.trimmed, headline?,
    List.isPrefixOf?_eq_some_iff_append_eq.2 rfl]
  simp only [hrest, if_neg h.unbroken.lineFeed_notMem, Text.trimEnd_eq_self hlast,
    String.ofList_toList]

theorem classify_featureLine {name : String} (h : IsName name) :
    Line.classify (Text.trimChars (keywordLine "Feature" name).toList) = .feature name :=
  Line.classify_eq_feature_iff.2 (headline?_keywordLine "Feature" (by decide) (by decide) h)

theorem classify_examplesLine {name : String} (h : IsName name) :
    Line.classify (Text.trimChars (keywordLine "Examples" name).toList) = .examples name := by
  have hline := headline?_keywordLine "Examples" (by decide) (by decide) h
  rw [Line.classify_eq_examples_iff, examplesHeadline?, List.findSome?_cons]
  simp only [show "Examples:" = "Examples" ++ ":" from rfl, hline]

/-- No keyword of a scenario is taken for another one. -/
theorem scenarioHeadline?_of_headline? {kind : ScenarioKind} {name : String} {cs : List Char}
    (h : headline? (kind.name ++ ":") cs = some name) :
    scenarioHeadline? cs = some (kind, name) := by
  obtain ⟨rest, rfl⟩ := exists_of_headline? h
  unfold headline? at h
  cases kind <;>
    simp_all [scenarioHeadline?, scenarioKeywords, headline?, ScenarioKind.name, List.isPrefixOf?]

theorem classify_scenarioLine (kind : ScenarioKind) {name : String} (h : IsName name) :
    Line.classify (Text.trimChars (keywordLine kind.name name).toList) = .scenario kind name := by
  refine Line.classify_eq_scenario_iff.2 (scenarioHeadline?_of_headline? ?_)
  cases kind <;> exact headline?_keywordLine _ (by decide) (by decide) h

/-! ## Tag lines -/

theorem IsTagName.ne_nil {s : String} (h : IsTagName s) : s.toList ≠ [] := by
  intro hnil
  have hsign := h.sign
  rw [hnil] at hsign
  exact absurd hsign (by decide)

theorem leadingTags_eq_some {ws : List (List Char)}
    (h : ∀ w ∈ ws, w.head? = some sigil ∧ w ≠ [sigil]) : leadingTags ws = some ws := by
  induction ws with
  | nil => rfl
  | cons w ws ih =>
    have hw := h w (List.mem_cons_self ..)
    have hcomment : w.head? ≠ some '#' := by
      rw [hw.1]
      decide
    rw [leadingTags, if_neg hcomment, if_pos hw, ih fun v hv => h v (List.mem_cons_of_mem _ hv)]
    rfl

section TagLine

variable {tags : List Tag}

/-- The characters of the names of tags. -/
def tagWords (tags : List Tag) : List (List Char) := tags.map fun t => t.name.toList

theorem toList_tagLine (tags : List Tag) :
    (Text.joinWith " " (tags.map Tag.name)).toList = List.intercalate [' '] (tagWords tags) := by
  rw [Text.toList_joinWith, List.map_map]
  rfl

theorem word_of_mem_tagWords (h : ∀ t ∈ tags, IsTagName t.name) :
    ∀ w ∈ tagWords tags, w ≠ [] ∧ ∀ c ∈ w, Text.isBlank c = false := by
  intro w hw
  obtain ⟨t, ht, rfl⟩ := List.mem_map.1 hw
  exact ⟨(h t ht).ne_nil, (h t ht).word⟩

/-- The line of some tags is a line of these tags. -/
theorem classify_tagLine (hne : tags ≠ []) (h : ∀ t ∈ tags, IsTagName t.name) :
    Line.classify (Text.trimChars (Text.joinWith " " (tags.map Tag.name)).toList) =
      .tags (tags.map Tag.name) := by
  have hwords := word_of_mem_tagWords h
  have htags : leadingTags (tagWords tags) = some (tagWords tags) := by
    refine leadingTags_eq_some fun w hw => ?_
    obtain ⟨t, ht, rfl⟩ := List.mem_map.1 hw
    exact ⟨(h t ht).sign, (h t ht).longer⟩
  rw [toList_tagLine, (Text.trimmed_intercalate hwords).1, Line.classify_eq_tags_iff, tagTokens?,
    Text.wordsOf_intercalate hwords, htags]
  cases tags with
  | nil => exact absurd rfl hne
  | cons t ts => simp [tagWords, Function.comp_def]

theorem isLines_tagLines (h : ∀ t ∈ tags, IsTagName t.name) : Text.IsLines (tagLines tags) := by
  have hwords := word_of_mem_tagWords h
  unfold tagLines
  split
  · exact .of_forall (by simp)
  · rename_i hne
    refine .of_forall fun l hl => ?_
    rw [List.mem_singleton] at hl
    subst hl
    constructor
    · rw [toList_tagLine]
      exact Text.unbroken_intercalate (by decide) fun w hw =>
        Text.unbroken_of_word (hwords w hw).2
    · rw [Ne, ← String.toList_eq_nil_iff, toList_tagLine]
      refine (Text.trimmed_intercalate hwords).2 ?_
      simpa [tagWords, List.isEmpty_iff] using hne

end TagLine

/-! ## Lines of free text, steps and rows -/

theorem IsTextLine.classify {l : List Char} (h : IsTextLine l) : Line.classify l = .text := by
  have hne : l.isEmpty = false := by simpa using h.ne_nil
  simp [Line.classify, hne, h.comment, h.row, h.fence, h.step, h.tags, h.feature, h.scenario,
    h.examples]

theorem IsStepLine.classify {l : String} (h : IsStepLine l) :
    Line.classify (Text.trimChars l.toList) = .step := by
  rw [h.trimmed]
  exact Line.classify_eq_step_iff.2 h.step

theorem classify_writeRow {cs : List String} (hne : cs ≠ []) :
    Line.classify (Text.trimChars (writeRow cs).toList) = .row := by
  rw [trimmed_of_isRow (isRow_writeRow hne)]
  exact Line.classify_eq_row_iff.2 (isRow_writeRow hne)

/-! ## The lines of a description -/

/-- What stands between the line feeds of a text. -/
def textLines (t : List Char) : List String := (t.splitOn '\n').map String.ofList

theorem descriptionLines_eq {d : String} (h : d ≠ "") :
    descriptionLines d = textLines d.toList := by
  rw [descriptionLines, if_neg h, textLines]

theorem joinWith_textLines (t : List Char) :
    Text.joinWith "\n" (textLines t) = String.ofList t := by
  rw [← String.toList_inj, Text.toList_joinWith, textLines, List.map_map]
  simp [Function.comp_def, show "\n".toList = ['\n'] from rfl, List.intercalate_splitOn]

theorem textLines_eq_singleton {l : List Char} (hl : '\n' ∉ l) :
    textLines l = [String.ofList l] := by
  rw [textLines, List.splitOn_eq_singleton hl]
  rfl

theorem textLines_next (t : List Char) {l : List Char} (hl : '\n' ∉ l) :
    textLines (t ++ '\n' :: l) = textLines t ++ [String.ofList l] := by
  rw [textLines, List.splitOn_append_cons_self, List.map_append, ← textLines, ← textLines,
    textLines_eq_singleton hl]

theorem textLines_gap (t : List Char) {l : List Char} (hl : '\n' ∉ l) :
    textLines (t ++ '\n' :: '\n' :: l) = textLines t ++ [""] ++ [String.ofList l] := by
  have htext : t ++ '\n' :: '\n' :: l = (t ++ '\n' :: []) ++ '\n' :: l := by simp
  rw [htext, textLines_next _ hl, textLines_next t (List.not_mem_nil)]

namespace IsTextLine

variable {l : List Char}

theorem ofList_ne_empty (h : IsTextLine l) : String.ofList l ≠ "" := by
  simpa using h.ne_nil

theorem isLines (h : IsTextLine l) : Text.IsLines [String.ofList l] := by
  refine .of_forall fun m hm => ?_
  rw [List.mem_singleton.1 hm, String.toList_ofList]
  exact ⟨h.unbroken, h.ofList_ne_empty⟩

end IsTextLine

/-- The last line of free text is not empty. -/
theorem exists_textLines_eq_concat {t : List Char} (h : Paragraphs IsTextLine t) :
    ∃ ls l, textLines t = ls ++ [l] ∧ l ≠ "" := by
  cases h with
  | line hl =>
    exact ⟨[], String.ofList t, textLines_eq_singleton hl.unbroken.lineFeed_notMem,
      hl.ofList_ne_empty⟩
  | @next t l _ hl =>
    exact ⟨_, String.ofList l, textLines_next t hl.unbroken.lineFeed_notMem, hl.ofList_ne_empty⟩
  | @gap t l _ hl =>
    exact ⟨_, String.ofList l, textLines_gap t hl.unbroken.lineFeed_notMem, hl.ofList_ne_empty⟩

theorem isLines_textLines {t : List Char} (h : Paragraphs IsTextLine t) :
    Text.IsLines (textLines t) := by
  induction h with
  | line hl =>
    rw [textLines_eq_singleton hl.unbroken.lineFeed_notMem]
    exact hl.isLines
  | @next t l _ hl ih =>
    rw [textLines_next t hl.unbroken.lineFeed_notMem]
    exact ih.append hl.isLines
  | @gap t l _ hl ih =>
    rw [textLines_gap t hl.unbroken.lineFeed_notMem]
    refine ⟨fun m hm => ?_, ?_⟩
    · rcases List.mem_append.1 hm with hm | hm
      · rcases List.mem_append.1 hm with hm | hm
        · exact ih.unbroken m hm
        · rw [List.mem_singleton.1 hm]
          decide
      · exact hl.isLines.unbroken m hm
    · rw [List.getLast?_concat]
      exact hl.isLines.last

/-! ## A printed feature is a list of lines -/

theorem isLines_descriptionLines {d : String} (h : IsFreeText d) :
    Text.IsLines (descriptionLines d) := by
  by_cases hd : d = ""
  · exact .of_forall (by simp [descriptionLines, hd])
  · rw [descriptionLines_eq hd]
    exact isLines_textLines (h.resolve_left hd)

theorem isLines_keywordLine {keyword name : String} (hkeyword : Text.Unbroken keyword.toList)
    (h : IsName name) : Text.IsLines [keywordLine keyword name] := by
  refine .of_forall fun l hl => ?_
  rw [List.mem_singleton.1 hl]
  constructor
  · simp only [keywordLine, String.toList_append, Text.unbroken_append]
    exact ⟨⟨hkeyword, by decide⟩, h.unbroken⟩
  · simp [keywordLine]

theorem isLines_rows {rows : List (List String)} (h : ∀ r ∈ rows, ∀ c ∈ r, IsCell c) :
    Text.IsLines (rows.map writeRow) := by
  refine .of_forall fun l hl => ?_
  obtain ⟨r, hr, rfl⟩ := List.mem_map.1 hl
  exact ⟨unbroken_writeRow fun s hs => (h r hr s hs).breaks, by simp [writeRow]⟩

theorem isLines_exampleLines {e : Example} (h : CanonicalExample e) :
    Text.IsLines (exampleLines e) := by
  have hkeyword : Text.IsLines [keywordLine "Examples" e.name] :=
    isLines_keywordLine (by decide) h.name
  unfold exampleLines
  rcases h.table with ⟨hheaders, -⟩ | htable
  · simpa [hheaders] using hkeyword
  · have hrows : Text.IsLines ((e.headers :: e.rows).map writeRow) := by
      refine isLines_rows fun r hr => ?_
      rcases List.mem_cons.1 hr with rfl | hr
      · exact htable.headerCells
      · exact htable.rowCells r hr
    simpa [htable.ne_nil] using hkeyword.append hrows

theorem isLines_scenarioLines {sc : Scenario} (h : CanonicalScenario sc) :
    Text.IsLines (scenarioLines sc) := by
  have hkeyword : Text.IsLines [keywordLine sc.kind.name sc.name] := by
    refine isLines_keywordLine ?_ h.name
    cases sc.kind <;> decide
  have hsteps : Text.IsLines sc.steps := by
    refine .of_forall fun l hl => ⟨(h.steps l hl).unbroken, ?_⟩
    rintro rfl
    exact absurd (h.steps "" hl).step (by decide)
  exact ((((isLines_tagLines h.tags).append hkeyword).append
    (isLines_descriptionLines h.description)).append hsteps).append
    (.flatMap fun e he => isLines_exampleLines (h.examples e he))

/-- The printed lines of a canonical feature are lines. -/
theorem isLines_print {f : Feature} (h : CanonicalFeature f) : Text.IsLines (print f) :=
  (((isLines_tagLines h.tags).append (isLines_keywordLine (by decide) h.name)).append
    (isLines_descriptionLines h.description)).append
    (.flatMap fun sc hsc => isLines_scenarioLines (h.scenarios sc hsc))

end FeatureAudit.Document
