import FeatureAudit.Proofs.Document.FreeText
import FeatureAudit.Proofs.Document.Tables

/-!
# Free text in front of a table

A table of examples takes no description, so free text below its keyword line could be left out. But
every line that is neither a row nor passed over ends the table, and free text is such a line: the
rows after it belong to no table and are lost. Hence the rows below a keyword line are read exactly
if no free text stands between (`table_after_gap`).

* `flatMap_tables`: the tables of all scenarios are one list, which `tablesFrom` finds.
* `exists_tablesFrom_append`: how many tables some lines open tells where the next one stands.
* `leadingRows_gap`: the rows after lines that are no rows.
-/

set_option autoImplicit false

namespace FeatureAudit.Document

/-! ## All tables of a document in order -/

/-- The tables of some lines, where the latest scenario before them is of a given kind. -/
def tablesFrom (kind? : Option ScenarioKind) : List NumberedLine → List TableText
  | [] => []
  | l :: ls =>
    match scenarioHeadline? l.text with
    | some (kind, _) => tablesFrom (some kind) ls
    | none =>
      match examplesHeadline? l.text with
      | some name =>
        if kind? = some .outline then ⟨name, leadingRows ls⟩ :: tablesFrom kind? ls
        else tablesFrom kind? ls
      | none => tablesFrom kind? ls

theorem tablesFrom_cons (kind? : Option ScenarioKind) (l : NumberedLine) (ls : List NumberedLine) :
    tablesFrom kind? (l :: ls) =
      match Line.classify l.text with
      | .scenario kind _ => tablesFrom (some kind) ls
      | .examples name =>
        if kind? = some .outline then ⟨name, leadingRows ls⟩ :: tablesFrom kind? ls
        else tablesFrom kind? ls
      | _ => tablesFrom kind? ls := by
  rw [tablesFrom, scenarioHeadline?_eq_classify, examplesHeadline?_eq_classify]
  cases Line.classify l.text <;> simp [Line.scenario?, Line.examples?]

/-- The tables of the open scenario and of those that follow it. -/
theorem leadingTables_append_flatMap (kind? : Option ScenarioKind) (ls : List NumberedLine) :
    (if kind? = some .outline then leadingTables ls else []) ++
      (scenarioTables ls).flatMap Prod.snd = tablesFrom kind? ls := by
  induction ls generalizing kind? with
  | nil => simp [leadingTables, scenarioTables, tablesFrom]
  | cons l ls ih =>
    rw [leadingTables_cons, scenarioTables_cons, tablesFrom_cons]
    cases Line.classify l.text with
    | scenario kind name =>
      simp only [ite_self, List.nil_append, List.flatMap_cons, ← ih (some kind), Option.some.injEq]
    | examples name =>
      rw [← ih kind?]
      by_cases hkind : kind? = some .outline
      · simp [hkind]
      · simp [hkind]
    | _ => exact ih kind?

/-- The tables of all scenarios that are read, in order. -/
theorem flatMap_tables (text path : String) :
    (read text path).scenarios.flatMap Scenario.examples =
      (tablesFrom none (visibleLines text)).map TableText.read := by
  have htabled : ((read text path).scenarios.map Scenario.tabled).flatMap Prod.snd =
      (read text path).scenarios.flatMap Scenario.examples := List.flatMap_map ..
  rw [← htabled, tabled_read, ← leadingTables_append_flatMap, List.flatMap_map, List.map_append,
    List.map_flatMap]
  rfl

/-- The number of tables that some lines open. -/
def tablesOpened (before : List NumberedLine) : Nat :=
  (contexts before).countP fun p => opens? p.1 p.2 == some .examples

theorem tablesOpened_concat (before : List NumberedLine) (l : NumberedLine) :
    tablesOpened (before ++ [l]) =
      tablesOpened before + if opens? before l = some .examples then 1 else 0 := by
  rw [tablesOpened, contexts_concat, List.countP_append, List.countP_singleton, ← tablesOpened]
  simp

/-- The tables that some lines open come first, and the kind of the latest scenario is all that is
needed to find the others. -/
theorem exists_tablesFrom_append (before ls : List NumberedLine) :
    ∃ ts : List TableText, ts.length = tablesOpened before ∧
      tablesFrom none (before ++ ls) = ts ++ tablesFrom (latestKind? before) ls := by
  induction before using List.reverseRecOn generalizing ls with
  | nil => exact ⟨[], rfl, rfl⟩
  | append_singleton before l ih =>
    obtain ⟨ts, hlength, htables⟩ := ih (l :: ls)
    rw [List.append_assoc, List.singleton_append, htables, tablesOpened_concat, latestKind?_concat,
      tablesFrom_cons, opens?_eq_classify, scenarioHeadline?_eq_classify]
    cases Line.classify l.text with
    | scenario kind name => exact ⟨ts, by simp [hlength], rfl⟩
    | feature name =>
      refine ⟨ts, ?_, rfl⟩
      cases before.any NumberedLine.isFeature <;> simp [hlength]
    | examples name =>
      by_cases hkind : latestKind? before = some .outline
      · exact ⟨ts ++ [⟨name, leadingRows ls⟩], by simp [hlength, hkind],
          by simp [hkind, Line.scenario?]⟩
      · exact ⟨ts, by simp [hlength, hkind], by simp [hkind, Line.scenario?]⟩
    | _ => exact ⟨ts, by simp [hlength], rfl⟩

/-! ## Rows after a gap -/

/-- The rows after lines that are no rows: all of them are lost if one of the lines is not passed
over. -/
theorem leadingRows_gap {gap : List NumberedLine} (hgap : ∀ l ∈ gap, isRow l.text = false)
    {row : NumberedLine} (hrow : isRow row.text = true) (after : List NumberedLine) :
    leadingRows (gap ++ row :: after) =
      if gap.all NumberedLine.isPassedOver then String.ofList row.text :: leadingRows after
      else [] := by
  induction gap with
  | nil =>
    rw [List.nil_append, leadingRows_cons, Line.classify_eq_row_iff.2 hrow]
    rfl
  | cons l gap ih =>
    have hl : isRow l.text = false := hgap l (List.mem_cons_self ..)
    rw [isRow_eq_classify, decide_eq_false_iff_not] at hl
    rw [List.cons_append, leadingRows_cons, List.all_cons, isPassedOver_eq_classify,
      ih fun m hm => hgap m (List.mem_cons_of_mem _ hm)]
    cases hc : Line.classify l.text with
    | row => exact absurd hc hl
    | _ => simp

theorem isRow_of_isPassedOver {l : NumberedLine} (h : l.isPassedOver = true) :
    isRow l.text = false := by
  rw [isPassedOver_eq_classify] at h
  rw [isRow_eq_classify, decide_eq_false_iff_not]
  intro hrow
  simp [hrow] at h

theorem isRow_of_isFreeText {before : List NumberedLine} {l : NumberedLine}
    (h : isFreeText before l = true) : isRow l.text = false := by
  simp only [isFreeText, Bool.and_eq_true, Bool.not_eq_true'] at h
  exact h.1.1.2

theorem isPassedOver_of_isFreeText {before : List NumberedLine} {l : NumberedLine}
    (h : isFreeText before l = true) : l.isPassedOver = false := by
  simp only [isFreeText, Bool.and_eq_true, Bool.not_eq_true', bne_iff_ne] at h
  rw [NumberedLine.isPassedOver, h.1.1.1.1.1, Bool.false_or, beq_eq_false_iff_ne]
  exact h.1.1.1.1.2

/-! ## A table and its keyword line -/

/-- A keyword line of examples under an outline, and a row after it with nothing between the two but
free text and lines that are passed over. -/
structure ExamplesBlock (text : String) where
  /-- The lines before the keyword line. -/
  before : List NumberedLine
  /-- The keyword line. -/
  keyword : NumberedLine
  /-- The name on the keyword line. -/
  name : String
  /-- The lines between the keyword line and the row. -/
  gap : List NumberedLine
  /-- The row. -/
  row : NumberedLine
  /-- The lines after the row. -/
  after : List NumberedLine
  visibleLines_eq : visibleLines text = before ++ keyword :: (gap ++ row :: after)
  outline : latestKind? before = some .outline
  headline : examplesHeadline? keyword.text = some name
  between : ∀ p ∈ contextsAfter (before ++ [keyword]) gap,
    p.2.isPassedOver = true ∨ (isFreeText p.1 p.2 = true ∧ fence? p.2.text = none)
  isRow_row : isRow row.text = true

namespace ExamplesBlock

variable {text : String} (b : ExamplesBlock text)

/-- Whether free text stands between the keyword line and the row. -/
def described : Bool :=
  (contextsAfter (b.before ++ [b.keyword]) b.gap).any fun p => isFreeText p.1 p.2

/-- The table with the row and those that follow it. -/
def table : TableText := ⟨b.name, String.ofList b.row.text :: leadingRows b.after⟩

/-- No line between the keyword line and the row is a row. -/
theorem isRow_of_mem_gap {l : NumberedLine} (hl : l ∈ b.gap) : isRow l.text = false := by
  rw [← map_snd_contextsAfter (b.before ++ [b.keyword]) b.gap] at hl
  obtain ⟨p, hp, rfl⟩ := List.mem_map.1 hl
  rcases b.between p hp with hpassed | ⟨hfree, -⟩
  · exact isRow_of_isPassedOver hpassed
  · exact isRow_of_isFreeText hfree

/-- A line between is passed over unless it is free text. -/
theorem isPassedOver_eq {p : List NumberedLine × NumberedLine}
    (hp : p ∈ contextsAfter (b.before ++ [b.keyword]) b.gap) :
    p.2.isPassedOver = !isFreeText p.1 p.2 := by
  rcases b.between p hp with hpassed | ⟨hfree, -⟩
  · have hnot : isFreeText p.1 p.2 = false := by
      rw [Bool.eq_false_iff]
      intro hfree
      rw [isPassedOver_of_isFreeText hfree] at hpassed
      exact absurd hpassed Bool.false_ne_true
    rw [hpassed, hnot]
    rfl
  · rw [isPassedOver_of_isFreeText hfree, hfree]
    rfl

theorem all_isPassedOver_gap : b.gap.all NumberedLine.isPassedOver = !b.described := by
  rw [← map_snd_contextsAfter (b.before ++ [b.keyword]) b.gap, List.all_map, described,
    List.not_any_eq_all_not, Bool.eq_iff_iff, List.all_eq_true, List.all_eq_true]
  constructor
  · intro hall p hp
    rw [← b.isPassedOver_eq hp]
    exact hall p hp
  · intro hnone p hp
    show p.2.isPassedOver = true
    rw [b.isPassedOver_eq hp]
    exact hnone p hp

end ExamplesBlock

/-- A table is read with the row after its keyword line and those that follow exactly if no free
text stands between. Otherwise it has no columns and no rows. -/
theorem table_after_gap {text : String} (b : ExamplesBlock text) (path : String) :
    ((read text path).scenarios.flatMap Scenario.examples)[tablesOpened b.before]? =
      some (if b.described then ⟨b.name, [], []⟩ else b.table.read) := by
  obtain ⟨ts, hlength, htables⟩ :=
    exists_tablesFrom_append b.before (b.keyword :: (b.gap ++ b.row :: b.after))
  have hkeyword := tablesFrom_cons (latestKind? b.before) b.keyword (b.gap ++ b.row :: b.after)
  simp only [Line.classify_eq_examples_iff.2 b.headline, if_pos b.outline] at hkeyword
  rw [flatMap_tables, b.visibleLines_eq, htables, hkeyword, ← hlength, List.getElem?_map,
    List.getElem?_append_right (le_refl _), Nat.sub_self, List.getElem?_cons_zero,
    leadingRows_gap (fun _ hl => b.isRow_of_mem_gap hl) b.isRow_row, b.all_isPassedOver_gap]
  cases b.described <;> rfl

/-- An outline with a comment above the first row of its table. -/
def commented : String := "Scenario Outline: s\nExamples:\n# note\n| a |\n| 1 |\n"

/-- The table under the comment. -/
def commentedBlock : ExamplesBlock commented where
  before := [⟨1, "Scenario Outline: s".toList⟩]
  keyword := ⟨2, "Examples:".toList⟩
  name := ""
  gap := [⟨3, "# note".toList⟩]
  row := ⟨4, "| a |".toList⟩
  after := [⟨5, "| 1 |".toList⟩]
  visibleLines_eq := by decide +kernel
  outline := by decide
  headline := by decide
  between := by decide
  isRow_row := by decide

theorem table_after_gap_commented :
    ((read commented "note.feature").scenarios.flatMap Scenario.examples)[0]? =
      some ⟨"", ["a"], [["1"]]⟩ :=
  (table_after_gap commentedBlock "note.feature").trans (by decide)

/-- An outline with a line of prose above the first row of its table. -/
def introduced : String := "Scenario Outline: s\nExamples:\nprose\n| a |\n| 1 |\n"

/-- The table under the prose. -/
def introducedBlock : ExamplesBlock introduced where
  before := [⟨1, "Scenario Outline: s".toList⟩]
  keyword := ⟨2, "Examples:".toList⟩
  name := ""
  gap := [⟨3, "prose".toList⟩]
  row := ⟨4, "| a |".toList⟩
  after := [⟨5, "| 1 |".toList⟩]
  visibleLines_eq := by decide +kernel
  outline := by decide
  headline := by decide
  between := by decide
  isRow_row := by decide

/-- Prose above a table costs the table. -/
theorem table_after_gap_introduced :
    ((read introduced "prose.feature").scenarios.flatMap
      Scenario.examples)[tablesOpened introducedBlock.before]? ≠
        some introducedBlock.table.read := by
  decide +kernel

end FeatureAudit.Document
