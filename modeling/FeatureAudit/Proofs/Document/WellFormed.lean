import FeatureAudit.Proofs.Document.Skeleton
import FeatureAudit.Proofs.Document.TagShares

/-!
# Features that are read are well formed

A feature that was read from a text can tell its scenarios by their lines, which rise from one on,
and its tags by the white space around them, of which they hold none (`wellFormed_read`). Both follow
from what the lines of the document give to the feature: a scenario has the number of its keyword
line (`line_skeletons`), and a tag is a name on a line of tags (`exists_tokens_of_mem_tagLists`).
-/

set_option autoImplicit false

namespace FeatureAudit

/-- A tag whose name holds no white space. -/
def Tag.IsWord (t : Tag) : Prop := ∀ c ∈ t.name.toList, Text.isBlank c = false

/-- A feature as it can stand in a text. -/
structure Feature.WellFormed (f : Feature) : Prop where
  /-- The lines of the scenarios rise, and all are above zero. -/
  lines : (0 :: f.scenarios.map Scenario.line).Pairwise (· < ·)
  /-- No tag holds white space. -/
  tags : ∀ ts ∈ f.tagLists, ∀ t ∈ ts, t.IsWord

namespace Document

/-! ## Lines -/

/-- The scenarios of some lines have the numbers of their keyword lines. -/
theorem line_skeletons (ls : List NumberedLine) :
    (skeletons ls).map Skeleton.line =
      (ls.filter NumberedLine.isScenario).map fun l => (l.number : Int) := by
  induction ls with
  | nil => rfl
  | cons l ls ih =>
    rw [skeletons, List.filter_cons, NumberedLine.isScenario]
    cases scenarioHeadline? l.text with
    | none => exact ih
    | some found => exact congrArg (List.cons (l.number : Int)) ih

theorem line_frameOf (ls : List NumberedLine) :
    (frameOf ls).scenarios.map Scenario.line =
      (ls.filter NumberedLine.isScenario).map fun l => (l.number : Int) := by
  have hskeletons : (frameOf ls).scenarios.map Skeleton.ofScenario = skeletons ls := by
    rw [← Frame.skeletons_nil, frameOf, Frame.skeletons_foldl]
    rfl
  rw [← line_skeletons, ← hskeletons, List.map_map]
  rfl

/-- The lines of the scenarios are numbers of lines of the document, in their order. -/
theorem line_read (text path : String) :
    (read text path).scenarios.map Scenario.line =
      (((outsideLines text).filter NumberedLine.isScenario).map NumberedLine.number).map
        Int.ofNat := by
  obtain ⟨-, -, hscenarios⟩ := read_frame text path
  have hbare : (read text path).scenarios.map Scenario.line =
      ((read text path).scenarios.map Scenario.bare).map Scenario.line := by
    rw [List.map_map]
    rfl
  rw [hbare, hscenarios, line_frameOf, List.map_map]
  rfl

/-- Scenarios have their lines in the order of the document, and above zero. -/
theorem rising_read (text path : String) :
    (0 :: (read text path).scenarios.map Scenario.line).Pairwise (· < ·) := by
  have hnumbers : (((outsideLines text).filter NumberedLine.isScenario).map
      NumberedLine.number).Sublist (List.range' 1 (Text.lines text).length) :=
    (List.filter_sublist.map _).trans (number_outside_sublist none 1 (Text.lines text))
  rw [line_read, ← Int.ofNat_zero, ← Int.ofNat_eq_natCast, ← List.map_cons, List.pairwise_map]
  refine List.pairwise_cons.2 ⟨fun n hn => ?_, ?_⟩
  · have hpos := (List.mem_range'_1.1 (hnumbers.subset hn)).1
    exact Int.ofNat_lt.2 hpos
  · exact (List.Pairwise.sublist hnumbers (List.pairwise_lt_range' 1)).imp Int.ofNat_lt.2

/-! ## Tags -/

/-- Every tag that reaches an element is a name on a line of tags. -/
theorem exists_tokens_of_mem_tagLists {text path : String} {ts : List Tag}
    (hts : ts ∈ (read text path).tagLists) {t : Tag} (ht : t ∈ ts) :
    ∃ l ∈ outsideLines text, t.name ∈ l.tokens := by
  have hshared : ∀ share ∈ shares (outsideLines text), ∀ name ∈ share.2,
      ∃ l ∈ outsideLines text, (Tag.named name).name ∈ l.tokens := by
    intro share hshare name hname
    rw [Tag.name_named_of_signed (signed_of_mem_shares hshare hname)]
    exact exists_tokens_of_mem_shares hshare hname
  obtain ⟨-, htags, hscenarios⟩ := read_frame text path
  rcases List.mem_cons.1 hts with rfl | hts
  · rw [htags, tags_frameOf] at ht
    obtain ⟨name, hname, rfl⟩ := List.mem_map.1 ht
    obtain ⟨share, hshare, hkept⟩ := List.mem_flatMap.1 hname
    exact hshared share hshare name (featureShare_subset share hkept)
  · obtain ⟨sc, hsc, rfl⟩ := List.mem_map.1 hts
    have hbare : (sc.kind, sc.tags) ∈
        (frameOf (outsideLines text)).scenarios.map fun sc => (sc.kind, sc.tags) := by
      rw [← hscenarios]
      exact List.mem_map.2 ⟨sc.bare, List.mem_map_of_mem hsc, rfl⟩
    rw [scenarioTags_frameOf] at hbare
    obtain ⟨kept, hkept, hpair⟩ := List.mem_map.1 hbare
    obtain ⟨share, hshare, hof⟩ := List.mem_filterMap.1 hkept
    rw [← (Prod.mk.inj hpair).2] at ht
    obtain ⟨name, hname, rfl⟩ := List.mem_map.1 ht
    exact hshared share hshare name (subset_of_scenarioShare hof hname)

/-- What is read has a line for every scenario and no white space in a tag. -/
theorem wellFormed_read (text path : String) : (read text path).WellFormed where
  lines := rising_read text path
  tags ts hts t ht := by
    obtain ⟨l, -, htoken⟩ := exists_tokens_of_mem_tagLists hts ht
    rw [NumberedLine.tokens] at htoken
    cases hnames : tagTokens? l.text with
    | none => simp [hnames] at htoken
    | some names =>
      rw [hnames] at htoken
      exact (word_of_mem_tagTokens? hnames htoken).2.2

end Document

end FeatureAudit
