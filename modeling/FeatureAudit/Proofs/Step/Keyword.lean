import FeatureAudit.Step
import FeatureAudit.Proofs.Document.Frame
import FeatureAudit.Proofs.Text.Case

/-!
# Keywords of the steps of a document

Two readers look for the keyword of a step. A document takes a line as a step if white space of any
kind, or nothing, follows the keyword (`Document.isStep`); the keyword of a step is the word up to
the first space (`Step.keyword`). They agree on exactly those steps in which a space or nothing
follows the keyword (`keyword_of_mem_steps`). After any other white space the step counts as one
without a keyword, and what follows it loses its category (`keyword_tab_step`).
-/

set_option autoImplicit false

namespace FeatureAudit

/-! ## Steps of a document -/

namespace Document

/-- A line that a document has outside fenced blocks and takes as a step. -/
def HasStep (ls : List NumberedLine) (step : String) : Prop :=
  ∃ l ∈ ls, isStep l.text = true ∧ step = String.ofList l.text

theorem HasStep.mono {ls ms : List NumberedLine} (h : ls ⊆ ms) {step : String}
    (hstep : HasStep ls step) : HasStep ms step := by
  obtain ⟨l, hl, hread⟩ := hstep
  exact ⟨l, h hl, hread⟩

namespace Frame

/-- A line adds no step but itself. -/
theorem mem_steps_step {fr : Frame} {l : NumberedLine} {sc : Scenario}
    (hsc : sc ∈ (fr.step l).scenarios) {step : String} (hstep : step ∈ sc.steps) :
    (∃ old ∈ fr.scenarios, step ∈ old.steps) ∨ HasStep [l] step := by
  have hkept : sc ∈ fr.scenarios → (∃ old ∈ fr.scenarios, step ∈ old.steps) ∨ HasStep [l] step :=
    fun h => Or.inl ⟨sc, h, hstep⟩
  cases h : Line.classify l.text with
  | step =>
    simp only [Frame.step, h, scenarios, List.mem_append, Option.mem_toList,
      Option.map_eq_some_iff] at hsc
    rcases hsc with hclosed | ⟨old, hlast, rfl⟩
    · exact hkept (List.mem_append_left _ hclosed)
    · rcases List.mem_append.1 hstep with hold | hnew
      · exact Or.inl ⟨old, List.mem_append_right _ (by simp [hlast]), hold⟩
      · exact Or.inr ⟨l, List.mem_singleton_self l, Line.classify_eq_step_iff.1 h,
          List.mem_singleton.1 hnew⟩
  | scenario kind name =>
    simp only [Frame.step, h, scenarios, List.mem_append, Option.mem_toList,
      Option.some.injEq] at hsc
    rcases hsc with hold | rfl
    · exact hkept (List.mem_append.2 (by simpa using hold))
    · simp at hstep
  | feature name =>
    simp only [Frame.step, h] at hsc
    split at hsc <;> exact hkept hsc
  | examples name =>
    simp only [Frame.step, h] at hsc
    split at hsc <;> exact hkept hsc
  | blank | comment | row | fence f | tags names | text =>
    simp only [Frame.step, h] at hsc
    exact hkept hsc

/-- After some lines, every step was there before or is one of the lines. -/
theorem mem_steps_foldl {fr : Frame} {ls : List NumberedLine} {sc : Scenario}
    (hsc : sc ∈ (ls.foldl Frame.step fr).scenarios) {step : String} (hstep : step ∈ sc.steps) :
    (∃ old ∈ fr.scenarios, step ∈ old.steps) ∨ HasStep ls step := by
  induction ls generalizing fr with
  | nil => exact Or.inl ⟨sc, hsc, hstep⟩
  | cons l ls ih =>
    rcases ih hsc with ⟨mid, hmid, hin⟩ | hlater
    · rcases mem_steps_step hmid hin with hold | hnow
      · exact Or.inl hold
      · exact Or.inr (hnow.mono (by simp))
    · exact Or.inr (hlater.mono (List.subset_cons_self l ls))

end Frame

/-- Every step of a document is one of its lines outside fenced blocks. -/
theorem hasStep_of_mem_steps {text path : String} {sc : Scenario}
    (hsc : sc ∈ (read text path).scenarios) {step : String} (hstep : step ∈ sc.steps) :
    HasStep (outsideLines text) step := by
  obtain ⟨-, -, hscenarios⟩ := read_frame text path
  have hbare : sc.bare ∈ (frameOf (outsideLines text)).scenarios :=
    hscenarios ▸ List.mem_map_of_mem hsc
  rcases Frame.mem_steps_foldl hbare (show step ∈ sc.bare.steps from hstep) with ⟨old, hold, -⟩ | h
  · simp [Frame.scenarios, Frame.start] at hold
  · exact h

end Document

/-! ## The two readers of a keyword -/

namespace Step

open Document (isStep endsWord stepKeywords)

/-- Whether a space or nothing comes next. -/
def spaced : List Char → Bool
  | [] => true
  | c :: _ => c == ' '

/-- The category that a keyword opens. -/
def categoryOf? (keyword : String) : Option StepCategory :=
  [StepCategory.setting, .action, .outcome].find? fun c => c.keyword == keyword

/-- The role of a keyword of its own. -/
def roleOfKeyword (keyword : String) : Role :=
  match categoryOf? keyword with
  | some c => .primary c
  | none => .continuation

theorem role?_stepKeyword : ∀ k ∈ stepKeywords, role? (Text.lower k) = some (roleOfKeyword k) := by
  decide

theorem space_notMem_stepKeyword : ∀ k ∈ stepKeywords, ∀ c ∈ k.toList, c ≠ ' ' := by
  decide

theorem mem_of_role? {word : String} (h : (role? word).isSome = true) :
    word ∈ ["given", "when", "then", "and", "but", "*"] := by
  unfold role? at h
  grind

/-- A word with a role has no white space in it. -/
theorem isBlank_of_role? {word : String} (h : (role? word).isSome = true) :
    ∀ c ∈ word.toList, Text.isBlank c = false := by
  have hwords : ∀ w ∈ ["given", "when", "then", "and", "but", "*"],
      ∀ c ∈ w.toList, Text.isBlank c = false := by decide
  exact hwords word (mem_of_role? h)

/-- A word has no role, in any case, if it has a character without case that no word with a role
has. -/
theorem role?_lower_eq_none {cs : List Char} {c : Char} (hc : c ∈ cs) (hcaseless : Text.Caseless c)
    (hwords : ∀ word, (role? word).isSome = true → c ∉ word.toList) :
    role? (Text.lower (String.ofList cs)) = none := by
  by_contra hrole
  refine hwords _ (Option.isSome_iff_ne_none.2 hrole) ?_
  simpa [Text.lower] using Text.mem_lowerAfter hcaseless hc []

/-- A word with white space in it has no role, in any case. -/
theorem role?_lower_eq_none_of_isBlank {cs : List Char} {c : Char} (hc : c ∈ cs)
    (hblank : Text.isBlank c = true) : role? (Text.lower (String.ofList cs)) = none := by
  refine role?_lower_eq_none hc (Text.caseless_of_isBlank hblank) fun word hrole hmem => ?_
  rw [isBlank_of_role? hrole c hmem] at hblank
  exact Bool.false_ne_true hblank

section Read

variable {k : String} {rest : List Char}

theorem headWord_eq (htrim : Text.Trimmed (k.toList ++ rest)) (hk : k ∈ stepKeywords) :
    headWord (String.ofList (k.toList ++ rest)) =
      k.toList ++ rest.takeWhile fun c => c != ' ' := by
  have hnospace : ∀ c ∈ k.toList, (c != ' ') = true := fun c hc =>
    bne_iff_ne.2 (space_notMem_stepKeyword k hk c hc)
  rw [headWord, String.toList_ofList, htrim, List.takeWhile_append_of_pos hnospace]

/-- A space after the keyword ends the first word, and so does the end of the step. -/
theorem takeWhile_of_spaced (h : spaced rest = true) :
    (rest.takeWhile fun c => c != ' ') = [] := by
  cases rest with
  | nil => rfl
  | cons c rest =>
    have hc : c = ' ' := by simpa [spaced] using h
    simp [hc]

/-- Other white space after the keyword belongs to the first word. -/
theorem exists_mem_takeWhile (hends : endsWord rest = true) (h : spaced rest = false) :
    ∃ c ∈ rest.takeWhile fun c => c != ' ', Text.isBlank c = true := by
  cases rest with
  | nil => simp [spaced] at h
  | cons c rest =>
    have hc : c ≠ ' ' := by simpa [spaced] using h
    exact ⟨c, by simp [hc], hends⟩

variable (htrim : Text.Trimmed (k.toList ++ rest)) (hk : k ∈ stepKeywords)
include htrim hk

theorem roleOf_of_spaced (h : spaced rest = true) :
    roleOf (String.ofList (k.toList ++ rest)) = some (roleOfKeyword k) := by
  rw [roleOf, headWord_eq htrim hk, takeWhile_of_spaced h, List.append_nil, String.ofList_toList,
    role?_stepKeyword k hk]

theorem roleOf_of_not_spaced (hends : endsWord rest = true) (h : spaced rest = false) :
    roleOf (String.ofList (k.toList ++ rest)) = none := by
  obtain ⟨c, hc, hblank⟩ := exists_mem_takeWhile hends h
  rw [roleOf, headWord_eq htrim hk]
  exact role?_lower_eq_none_of_isBlank (List.mem_append_right _ hc) hblank

theorem keyword_of_spaced (h : spaced rest = true) :
    keyword (String.ofList (k.toList ++ rest)) = k := by
  rw [keyword, roleOf_of_spaced htrim hk h, headWord_eq htrim hk, takeWhile_of_spaced h]
  simp

theorem keyword_of_not_spaced (hends : endsWord rest = true) (h : spaced rest = false) :
    keyword (String.ofList (k.toList ++ rest)) = "" := by
  rw [keyword, roleOf_of_not_spaced htrim hk hends h]
  simp

theorem body_of_spaced (h : spaced rest = true) :
    body (String.ofList (k.toList ++ rest)) = String.ofList (Text.trimChars rest) := by
  rw [body, bodyChars, keyword_of_spaced htrim hk h, String.toList_ofList, htrim,
    ← String.length_toList, List.drop_left]

theorem body_of_not_spaced (hends : endsWord rest = true) (h : spaced rest = false) :
    body (String.ofList (k.toList ++ rest)) = String.ofList (k.toList ++ rest) := by
  rw [body, bodyChars, keyword_of_not_spaced htrim hk hends h, String.toList_ofList, htrim,
    String.length_empty, List.drop_zero, htrim]

theorem nextCategory_of_spaced (h : spaced rest = true) (current : Option StepCategory) :
    nextCategory current (String.ofList (k.toList ++ rest)) = (categoryOf? k).or current := by
  rw [nextCategory, roleOf_of_spaced htrim hk h, roleOfKeyword]
  cases categoryOf? k <;> rfl

theorem nextCategory_of_not_spaced (hends : endsWord rest = true) (h : spaced rest = false)
    (current : Option StepCategory) :
    nextCategory current (String.ofList (k.toList ++ rest)) = none := by
  rw [nextCategory, roleOf_of_not_spaced htrim hk hends h]

end Read

/-- A step of a document begins with one of the keywords, followed by white space or nothing. If a
space or nothing follows, that keyword is the keyword of the step, its body is the rest of the step,
and its category is the one that the keyword opens, or else that of the step before. If other white
space follows, the step has no keyword, all of it is body, and no category goes on past it. -/
theorem keyword_of_mem_steps (text path : String) {sc : Scenario}
    (hsc : sc ∈ (Document.read text path).scenarios) {step : String} (hstep : step ∈ sc.steps) :
    ∃ k ∈ stepKeywords, ∃ rest, step = String.ofList (k.toList ++ rest) ∧ endsWord rest = true ∧
      if spaced rest then
        keyword step = k ∧ body step = String.ofList (Text.trimChars rest) ∧
          ∀ current, nextCategory current step = (categoryOf? k).or current
      else
        keyword step = "" ∧ body step = step ∧ ∀ current, nextCategory current step = none := by
  obtain ⟨l, hl, hisStep, rfl⟩ := Document.hasStep_of_mem_steps hsc hstep
  have htrim : Text.Trimmed l.text := Document.trimmed_of_mem_outside hl
  obtain ⟨k, hk, rest, htext, hends⟩ := Document.exists_of_isStep hisStep
  rw [htext] at htrim ⊢
  refine ⟨k, hk, rest, rfl, hends, ?_⟩
  cases h : spaced rest with
  | true =>
    exact ⟨keyword_of_spaced htrim hk h, body_of_spaced htrim hk h,
      nextCategory_of_spaced htrim hk h⟩
  | false =>
    exact ⟨keyword_of_not_spaced htrim hk hends h, body_of_not_spaced htrim hk hends h,
      nextCategory_of_not_spaced htrim hk hends h⟩

/-- A document with a tab after one keyword and a space after the other. -/
def weather : String := "Scenario: weather\n  Given\ta cloud\n  When it rains\n"

/-- The scenario of that document. -/
def rain : Scenario :=
  ⟨"weather", .scenario, 1, "", [], ["Given\ta cloud", "When it rains"], []⟩

theorem keyword_of_mem_steps_rain :
    rain ∈ (Document.read weather "").scenarios ∧ "When it rains" ∈ rain.steps ∧
      ∃ k ∈ stepKeywords, ∃ rest, "When it rains" = String.ofList (k.toList ++ rest) ∧
        endsWord rest = true ∧
        if spaced rest then
          keyword "When it rains" = k ∧
            body "When it rains" = String.ofList (Text.trimChars rest) ∧
            ∀ current, nextCategory current "When it rains" = (categoryOf? k).or current
        else
          keyword "When it rains" = "" ∧ body "When it rains" = "When it rains" ∧
            ∀ current, nextCategory current "When it rains" = none := by
  have hsc : rain ∈ (Document.read weather "").scenarios := by decide
  have hstep : "When it rains" ∈ rain.steps := by decide
  exact ⟨hsc, hstep, keyword_of_mem_steps weather "" hsc hstep⟩

/-- Not every step of a document has one of the keywords as its keyword, and a category can be lost
at a step: both happen at a keyword with a tab after it. -/
theorem keyword_tab_step :
    (¬ ∀ text path : String, ∀ sc ∈ (Document.read text path).scenarios, ∀ step ∈ sc.steps,
      keyword step ∈ stepKeywords) ∧
    (Document.read weather "").scenarios = [rain] ∧ keyword "Given\ta cloud" = "" ∧
      body "Given\ta cloud" = "Given\ta cloud" ∧
      categories rain.steps = [none, some .action] := by
  have hread : (Document.read weather "").scenarios = [rain] := by decide
  have hkeyword : keyword "Given\ta cloud" = "" := by decide
  refine ⟨fun hall => ?_, hread, hkeyword, by decide, by decide⟩
  have hsc : rain ∈ (Document.read weather "").scenarios := by simp [hread]
  have hmem := hall weather "" rain hsc "Given\ta cloud" (by decide)
  rw [hkeyword] at hmem
  exact absurd hmem (by decide)

end Step

end FeatureAudit
