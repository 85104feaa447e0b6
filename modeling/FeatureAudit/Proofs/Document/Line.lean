import Mathlib.Data.List.Basic
import FeatureAudit.Document.Line
import FeatureAudit.Proofs.Tag.Name

/-!
# The classes of lines exclude each other

`Line.classify` tries the marks of the classes one after the other. The order is of no consequence:
each mark opens a line in its own way, so a line that bears one of them bears no other. Hence each
mark by itself tells its class, and the class tells what every test of a mark says about the line.
-/

set_option autoImplicit false

namespace FeatureAudit.Document

/-! ## What a class holds -/

namespace Line

/-- The fence of a line that begins or ends a block. -/
def fence? : Line → Option Fence
  | .fence f => some f
  | _ => none

/-- The tags of a line of tags. -/
def tags? : Line → Option (List String)
  | .tags names => some names
  | _ => none

/-- The name on a feature's keyword line. -/
def feature? : Line → Option String
  | .feature name => some name
  | _ => none

/-- The kind and name on a scenario's keyword line. -/
def scenario? : Line → Option (ScenarioKind × String)
  | .scenario kind name => some (kind, name)
  | _ => none

/-- The name on the keyword line of a table of examples. -/
def examples? : Line → Option String
  | .examples name => some name
  | _ => none

end Line

/-! ## How marked lines begin -/

theorem head?_of_isRow {cs : List Char} (h : isRow cs = true) : cs.head? = some '|' := by
  simp only [isRow, Bool.and_eq_true, beq_iff_eq] at h
  exact h.1.2

theorem fence?_cons_eq_none {c : Char} {cs : List Char} (hq : c ≠ '"') (hg : c ≠ '`') :
    fence? (c :: cs) = none := by
  simp [fence?, Fence.opens, Fence.mark, hq.symm, hg.symm]

theorem head?_of_fence? {cs : List Char} {f : Fence} (h : fence? cs = some f) :
    cs.head? = some '"' ∨ cs.head? = some '`' := by
  cases cs with
  | nil => simp [fence?, Fence.opens, Fence.mark] at h
  | cons c cs =>
    by_contra hc
    simp only [List.head?_cons, Option.some.injEq, not_or] at hc
    rw [fence?_cons_eq_none hc.1 hc.2] at h
    exact absurd h (Option.some_ne_none f).symm

/-- A step begins with its keyword. -/
theorem exists_of_isStep {cs : List Char} (h : isStep cs = true) :
    ∃ k ∈ stepKeywords, ∃ rest, cs = k.toList ++ rest ∧ endsWord rest = true := by
  obtain ⟨k, hk, hmatch⟩ := List.any_eq_true.1 h
  cases hp : k.toList.isPrefixOf? cs with
  | none => simp [hp] at hmatch
  | some rest =>
    refine ⟨k, hk, rest, (List.append_eq_of_isPrefixOf?_eq_some hp).symm, ?_⟩
    simpa [hp] using hmatch

/-- A keyword line begins with its keyword. -/
theorem exists_of_headline? {keyword name : String} {cs : List Char}
    (h : headline? keyword cs = some name) : ∃ rest, cs = keyword.toList ++ rest := by
  unfold headline? at h
  cases hp : keyword.toList.isPrefixOf? cs with
  | none => simp [hp] at h
  | some rest => exact ⟨rest, (List.append_eq_of_isPrefixOf?_eq_some hp).symm⟩

theorem exists_of_scenarioHeadline? {kind : ScenarioKind} {name : String} {cs : List Char}
    (h : scenarioHeadline? cs = some (kind, name)) :
    ∃ keyword, (keyword, kind) ∈ scenarioKeywords ∧ ∃ rest, cs = keyword.toList ++ rest := by
  obtain ⟨⟨keyword, k⟩, hmem, hline⟩ := List.exists_of_findSome?_eq_some h
  obtain ⟨n, hn, heq⟩ := Option.map_eq_some_iff.1 hline
  obtain ⟨rfl, rfl⟩ := Prod.mk.inj heq
  exact ⟨keyword, hmem, exists_of_headline? hn⟩

theorem exists_of_examplesHeadline? {name : String} {cs : List Char}
    (h : examplesHeadline? cs = some name) :
    ∃ keyword ∈ ["Examples:", "Scenarios:"], ∃ rest, cs = keyword.toList ++ rest := by
  obtain ⟨keyword, hmem, hline⟩ := List.exists_of_findSome?_eq_some h
  exact ⟨keyword, hmem, exists_of_headline? hline⟩

/-- The name on a keyword line is trimmed. -/
theorem trimmed_of_headline? {keyword name : String} {cs : List Char}
    (h : headline? keyword cs = some name) : Text.Trimmed name.toList := by
  unfold headline? at h
  cases hp : keyword.toList.isPrefixOf? cs with
  | none => simp [hp] at h
  | some rest =>
    simp only [hp, Option.ite_none_left_eq_some, Option.some.injEq] at h
    obtain ⟨-, rfl⟩ := h
    rw [String.toList_ofList]
    exact Text.trimmed_trimChars rest

theorem trimmed_of_examplesHeadline? {name : String} {cs : List Char}
    (h : examplesHeadline? cs = some name) : Text.Trimmed name.toList := by
  obtain ⟨keyword, -, hline⟩ := List.exists_of_findSome?_eq_some h
  exact trimmed_of_headline? hline

/-- A line whose first character is neither white space nor the sign of a tag is no line of
tags. -/
theorem tagTokens?_eq_none {cs : List Char} {c : Char} (hhead : cs.head? = some c)
    (hb : Text.isBlank c = false) (hc : c ≠ sigil) : tagTokens? cs = none := by
  obtain ⟨cs, rfl⟩ := List.head?_eq_some_iff.1 hhead
  obtain ⟨w, ws, hw⟩ := Text.head?_wordsOf_cons hb cs
  rw [tagTokens?, hw, leadingTags]
  by_cases hh : c = '#'
  · simp [hh]
  · simp [hh, hc]

/-- A line of tags is not empty and begins with white space or the sign of a tag. -/
theorem head?_of_tagTokens? {cs : List Char} {names : List String}
    (h : tagTokens? cs = some names) :
    ∃ c, cs.head? = some c ∧ (Text.isBlank c = true ∨ c = sigil) := by
  cases cs with
  | nil => simp [tagTokens?, Text.wordsOf, leadingTags] at h
  | cons c cs =>
    refine ⟨c, rfl, ?_⟩
    by_contra hc
    simp only [not_or, Bool.not_eq_true] at hc
    rw [tagTokens?_eq_none rfl hc.1 hc.2] at h
    exact absurd h (Option.some_ne_none names).symm

/-- The first character of a step. -/
theorem head?_of_isStep {cs : List Char} (h : isStep cs = true) :
    ∃ c ∈ ['G', 'W', 'T', 'A', 'B', '*'], cs.head? = some c := by
  obtain ⟨k, hk, rest, rfl, -⟩ := exists_of_isStep h
  simp only [stepKeywords, List.mem_cons, List.not_mem_nil, or_false] at hk
  rcases hk with rfl | rfl | rfl | rfl | rfl | rfl <;> simp

/-! ## Tags keep their spelling -/

theorem mem_of_leadingTags {ws ts : List (List Char)} (h : leadingTags ws = some ts)
    {t : List Char} (ht : t ∈ ts) : t ∈ ws ∧ t.head? = some sigil ∧ t ≠ [sigil] := by
  induction ws generalizing ts with
  | nil =>
    rw [leadingTags, Option.some.injEq] at h
    simp [← h] at ht
  | cons w ws ih =>
    rw [leadingTags] at h
    split at h
    · rw [Option.some.injEq] at h
      simp [← h] at ht
    · split at h
      · rename_i hw
        obtain ⟨us, hus, rfl⟩ := Option.map_eq_some_iff.1 h
        rcases List.mem_cons.1 ht with rfl | ht
        · exact ⟨List.mem_cons_self .., hw⟩
        · obtain ⟨hmem, hsign⟩ := ih hus ht
          exact ⟨List.mem_cons_of_mem _ hmem, hsign⟩
      · exact absurd h (Option.some_ne_none ts).symm

/-- A name on a line of tags is a word with the sign of a tag and more to it. -/
theorem word_of_mem_tagTokens? {cs : List Char} {names : List String}
    (h : tagTokens? cs = some names) {name : String} (hname : name ∈ names) :
    name.toList.head? = some sigil ∧ name.toList ≠ [sigil] ∧
      ∀ c ∈ name.toList, Text.isBlank c = false := by
  unfold tagTokens? at h
  split at h
  · rename_i w ws htags
    rw [← Option.some.inj h] at hname
    obtain ⟨t, ht, rfl⟩ := List.mem_map.1 hname
    obtain ⟨hmem, hhead, hne⟩ := mem_of_leadingTags htags ht
    rw [String.toList_ofList]
    exact ⟨hhead, hne, (Text.word_of_mem_wordsOf hmem).2⟩
  · exact absurd h (Option.some_ne_none names).symm

/-- Every name on a line of tags is a tag, with the spelling that it has there. -/
theorem filterMap_of?_tagTokens? {cs : List Char} {names : List String}
    (h : tagTokens? cs = some names) : names.filterMap Tag.of? = names.map Tag.named := by
  rw [← List.filterMap_eq_map]
  refine List.filterMap_congr fun name hname => ?_
  obtain ⟨hhead, hne, hblank⟩ := word_of_mem_tagTokens? h hname
  have hspelled : (Tag.named name).name = name := Tag.name_named_of_signed hhead
  have hkept : Tag.of? (Tag.named name).name = some (Tag.named name) := by
    refine Tag.of?_name ⟨Tag.signed _, ?_, ?_⟩ <;> rw [hspelled]
    · exact hne
    · exact Text.trimmed_of_forall hblank
  rwa [hspelled] at hkept

/-! ## Each mark tells its class -/

namespace Line

/-- The marks of a single character, which are looked for first. -/
def signs : List Char := ['#', '|', '"', '`']

/-- The class of a line that begins with no sign, told by its words. -/
def ofWords (cs : List Char) : Line :=
  if isStep cs then .step
  else match tagTokens? cs with
  | some names => .tags names
  | none =>
    match headline? "Feature:" cs with
    | some name => .feature name
    | none =>
      match scenarioHeadline? cs with
      | some (kind, name) => .scenario kind name
      | none =>
        match examplesHeadline? cs with
        | some name => .examples name
        | none => .text

theorem classify_eq_ofWords {cs : List Char} {c : Char} (hhead : cs.head? = some c)
    (hc : c ∉ signs) : classify cs = ofWords cs := by
  obtain ⟨cs, rfl⟩ := List.head?_eq_some_iff.1 hhead
  simp only [signs, List.mem_cons, List.not_mem_nil, or_false, not_or] at hc
  obtain ⟨hcomment, hbar, hquote, hgrave⟩ := hc
  have hrow : isRow (c :: cs) = false := by
    rw [Bool.eq_false_iff]
    exact fun h => hbar (by simpa using head?_of_isRow h)
  simp only [classify, List.isEmpty_cons, Bool.false_eq_true, if_false, List.head?_cons,
    Option.some.injEq, hcomment, hrow, fence?_cons_eq_none hquote hgrave]
  rfl

theorem classify_eq_blank_iff {cs : List Char} : classify cs = .blank ↔ cs = [] := by
  constructor
  · intro h
    unfold classify at h
    split at h
    · rwa [← List.isEmpty_iff]
    · grind
  · rintro rfl
    rfl

theorem classify_eq_comment_iff {cs : List Char} :
    classify cs = .comment ↔ cs.head? = some '#' := by
  constructor
  · intro h
    unfold classify at h
    grind
  · intro h
    cases cs with
    | nil => simp at h
    | cons c cs => simp [classify, Option.some.inj h]

theorem classify_eq_row_iff {cs : List Char} : classify cs = .row ↔ isRow cs = true := by
  constructor
  · intro h
    unfold classify at h
    grind
  · intro h
    have hhead := head?_of_isRow h
    cases cs with
    | nil => simp at hhead
    | cons c cs =>
      have hc : c ≠ '#' := by
        rw [Option.some.inj hhead]
        decide
      simp [classify, hc, h]

theorem classify_eq_fence_iff {cs : List Char} {f : Fence} :
    classify cs = .fence f ↔ Document.fence? cs = some f := by
  constructor
  · intro h
    unfold classify at h
    grind
  · intro h
    have hhead := head?_of_fence? h
    have hrow : isRow cs = false := by
      rw [Bool.eq_false_iff]
      intro hr
      rw [head?_of_isRow hr] at hhead
      exact absurd hhead (by decide)
    have hcomment : cs.head? ≠ some '#' := by
      intro hc
      rw [hc] at hhead
      exact absurd hhead (by decide)
    have hne : cs ≠ [] := by
      rintro rfl
      simp at hhead
    simp [classify, hne, hcomment, hrow, h]

theorem classify_eq_step_iff {cs : List Char} : classify cs = .step ↔ isStep cs = true := by
  constructor
  · intro h
    unfold classify at h
    grind
  · intro h
    obtain ⟨c, hc, hhead⟩ := head?_of_isStep h
    have hsign : ∀ c ∈ ['G', 'W', 'T', 'A', 'B', '*'], c ∉ signs := by decide
    rw [classify_eq_ofWords hhead (hsign c hc), ofWords, if_pos h]

theorem classify_eq_tags_iff {cs : List Char} {names : List String} :
    classify cs = .tags names ↔ tagTokens? cs = some names := by
  constructor
  · intro h
    unfold classify at h
    grind
  · intro h
    obtain ⟨c, hhead, hc⟩ := head?_of_tagTokens? h
    -- neither a sign nor the first letter of a step is white space or the sign of a tag
    have hsign : c ∉ signs := by
      have hall : ∀ d ∈ signs, ¬ (Text.isBlank d = true ∨ d = sigil) := by decide
      exact fun hmem => hall c hmem hc
    have hstep : isStep cs = false := by
      have hall : ∀ d ∈ ['G', 'W', 'T', 'A', 'B', '*'],
          ¬ (Text.isBlank d = true ∨ d = sigil) := by decide
      rw [Bool.eq_false_iff]
      intro hs
      obtain ⟨d, hd, hdhead⟩ := head?_of_isStep hs
      rw [hhead, Option.some.injEq] at hdhead
      exact hall d hd (hdhead ▸ hc)
    rw [classify_eq_ofWords hhead hsign, ofWords, hstep, h]
    rfl

theorem classify_eq_feature_iff {cs : List Char} {name : String} :
    classify cs = .feature name ↔ headline? "Feature:" cs = some name := by
  constructor
  · intro h
    unfold classify at h
    grind
  · intro h
    obtain ⟨rest, rfl⟩ := exists_of_headline? h
    have hhead : ("Feature:".toList ++ rest).head? = some 'F' := by simp
    have hstep : isStep ("Feature:".toList ++ rest) = false := by
      simp [isStep, stepKeywords, List.isPrefixOf?]
    have htags := tagTokens?_eq_none hhead (by decide) (by decide)
    rw [classify_eq_ofWords hhead (by decide), ofWords, hstep, htags, h]
    rfl

theorem classify_eq_scenario_iff {cs : List Char} {kind : ScenarioKind} {name : String} :
    classify cs = .scenario kind name ↔ scenarioHeadline? cs = some (kind, name) := by
  constructor
  · intro h
    unfold classify at h
    grind
  · intro h
    obtain ⟨keyword, hk, rest, rfl⟩ := exists_of_scenarioHeadline? h
    have hmem : keyword ∈ scenarioKeywords.map Prod.fst := List.mem_map_of_mem hk
    -- no keyword of a scenario is continued to a step or to another keyword
    have hother : isStep (keyword.toList ++ rest) = false ∧
        headline? "Feature:" (keyword.toList ++ rest) = none ∧
        ∃ c ∈ ['B', 'S', 'E', 'R'], (keyword.toList ++ rest).head? = some c := by
      simp only [scenarioKeywords, List.map_cons, List.map_nil, List.mem_cons, List.not_mem_nil,
        or_false] at hmem
      rcases hmem with rfl | rfl | rfl | rfl | rfl | rfl <;>
        simp [isStep, stepKeywords, headline?, List.isPrefixOf?]
    obtain ⟨hstep, hfeature, c, hc, hhead⟩ := hother
    have hplain : ∀ d ∈ ['B', 'S', 'E', 'R'],
        d ∉ signs ∧ Text.isBlank d = false ∧ d ≠ sigil := by decide
    have htags := tagTokens?_eq_none hhead (hplain c hc).2.1 (hplain c hc).2.2
    rw [classify_eq_ofWords hhead (hplain c hc).1, ofWords, hstep, htags, hfeature, h]
    rfl

theorem classify_eq_examples_iff {cs : List Char} {name : String} :
    classify cs = .examples name ↔ examplesHeadline? cs = some name := by
  constructor
  · intro h
    unfold classify at h
    grind
  · intro h
    obtain ⟨keyword, hmem, rest, rfl⟩ := exists_of_examplesHeadline? h
    have hother : isStep (keyword.toList ++ rest) = false ∧
        headline? "Feature:" (keyword.toList ++ rest) = none ∧
        scenarioHeadline? (keyword.toList ++ rest) = none ∧
        ∃ c ∈ ['S', 'E'], (keyword.toList ++ rest).head? = some c := by
      simp only [List.mem_cons, List.not_mem_nil, or_false] at hmem
      rcases hmem with rfl | rfl <;>
        simp [isStep, stepKeywords, scenarioHeadline?, scenarioKeywords, headline?,
          List.isPrefixOf?]
    obtain ⟨hstep, hfeature, hscenario, c, hc, hhead⟩ := hother
    have hplain : ∀ d ∈ ['S', 'E'], d ∉ signs ∧ Text.isBlank d = false ∧ d ≠ sigil := by decide
    have htags := tagTokens?_eq_none hhead (hplain c hc).2.1 (hplain c hc).2.2
    rw [classify_eq_ofWords hhead (hplain c hc).1, ofWords, hstep, htags, hfeature, hscenario, h]
    rfl

end Line

/-! ## What the class says about every mark -/

theorem isRow_eq_classify (cs : List Char) : isRow cs = decide (Line.classify cs = .row) := by
  rw [Bool.eq_iff_iff, decide_eq_true_iff, Line.classify_eq_row_iff]

theorem isStep_eq_classify (cs : List Char) : isStep cs = decide (Line.classify cs = .step) := by
  rw [Bool.eq_iff_iff, decide_eq_true_iff, Line.classify_eq_step_iff]

theorem fence?_eq_classify (cs : List Char) : fence? cs = (Line.classify cs).fence? := by
  refine Option.ext fun f => ?_
  rw [← Line.classify_eq_fence_iff]
  cases Line.classify cs <;> simp [Line.fence?]

theorem tagTokens?_eq_classify (cs : List Char) : tagTokens? cs = (Line.classify cs).tags? := by
  refine Option.ext fun names => ?_
  rw [← Line.classify_eq_tags_iff]
  cases Line.classify cs <;> simp [Line.tags?]

theorem featureHeadline?_eq_classify (cs : List Char) :
    headline? "Feature:" cs = (Line.classify cs).feature? := by
  refine Option.ext fun name => ?_
  rw [← Line.classify_eq_feature_iff]
  cases Line.classify cs <;> simp [Line.feature?]

theorem scenarioHeadline?_eq_classify (cs : List Char) :
    scenarioHeadline? cs = (Line.classify cs).scenario? := by
  refine Option.ext fun ⟨kind, name⟩ => ?_
  rw [← Line.classify_eq_scenario_iff]
  cases Line.classify cs <;> simp [Line.scenario?]

theorem examplesHeadline?_eq_classify (cs : List Char) :
    examplesHeadline? cs = (Line.classify cs).examples? := by
  refine Option.ext fun name => ?_
  rw [← Line.classify_eq_examples_iff]
  cases Line.classify cs <;> simp [Line.examples?]

end FeatureAudit.Document
