import FeatureAudit.Proofs.Document.RoundTrip
import FeatureAudit.Proofs.Document.TagShares

/-!
# Nothing leaks over a scenario boundary

A document may be parted in front of the keyword line of a scenario: the scenarios of the two parts,
read each on its own, are the scenarios of the whole, and all else is that of the first part
(`read_parted`).

* `Session.after` puts what a session has read behind what another one has read.
* `Session.take_after`: a line does the same to a session whether or not something has been read
  before; `Session.feedAll_after` says so of all lines.
* `Session.feedAll_leadsToScenario`: up to the keyword line of a scenario, a session and a fresh one
  differ in nothing that lasts but what has been read before.
-/

set_option autoImplicit false

namespace FeatureAudit

/-- A scenario that stands `n` lines further down. -/
def Scenario.shift (n : Nat) (sc : Scenario) : Scenario := { sc with line := sc.line + n }

namespace Document

/-! ## How the parts begin and end -/

/-- The fence that is open after some lines, told by fences alone. -/
def fenceAfter : Option Fence → List String → Option Fence
  | fence, [] => fence
  | none, raw :: ls => fenceAfter (fence? (Text.trimChars raw.toList)) ls
  | some f, raw :: ls =>
    fenceAfter (if f.opens (Text.trimChars raw.toList) then none else some f) ls

/-- A trimmed line that is empty, a comment or a line of tags. -/
def isLead (cs : List Char) : Bool :=
  cs.isEmpty || cs.head? == some '#' || (tagTokens? cs).isSome

/-- Whether nothing but empty lines, comments and lines of tags stands in front of a keyword line of
a scenario. -/
def leadsToScenario : List String → Bool
  | [] => false
  | raw :: ls =>
    let cs := Text.trimChars raw.toList
    if isLead cs then leadsToScenario ls else (scenarioHeadline? cs).isSome

theorem isLead_eq_classify (cs : List Char) : isLead cs =
    match Line.classify cs with
    | .blank | .comment | .tags _ => true
    | _ => false := by
  have hblank : cs.isEmpty = decide (Line.classify cs = .blank) := by
    rw [Bool.eq_iff_iff, decide_eq_true_iff, Line.classify_eq_blank_iff, List.isEmpty_iff]
  have hcomment : (cs.head? == some '#') = decide (Line.classify cs = .comment) := by
    rw [beq_eq_decide, decide_eq_decide.2 Line.classify_eq_comment_iff.symm]
  rw [isLead, hblank, hcomment, tagTokens?_eq_classify]
  cases Line.classify cs <;> simp [Line.tags?]

namespace Session

theorem fence_feedAll (s : Session) (number : Nat) (ls : List String) :
    (s.feedAll number ls).fence = fenceAfter s.fence ls := by
  induction ls generalizing s number with
  | nil => cases h : s.fence <;> simp [feedAll, fenceAfter, h]
  | cons raw ls ih =>
    rw [feedAll, ih]
    cases h : s.fence with
    | none => rw [feed_of_fence_eq_none h, take_fence h, fenceAfter]
    | some f => rw [feed_of_fence_eq_some h, fenceAfter]

/-! ## Sessions behind others -/

/-- The session that has read in front what `base` has read, in `n` lines, and then what `s` has
read. -/
def after (base : Session) (n : Nat) (s : Session) : Session :=
  { s with
    head := base.head
    opened := base.opened
    closed := base.closed ++ base.scenario.toList ++ s.closed.map (Scenario.shift n)
    scenario := s.scenario.map (Scenario.shift n) }

variable (base : Session) (n : Nat)

theorem flush_after {s : Session} (h : s.phase.owner? ≠ some .feature) :
    (base.after n s).flush = base.after n s.flush := by
  rw [flush_eq, flush_eq]
  simp only [after, h, if_false, Option.map_map]
  rfl

theorem openScenario?_after (s : Session) :
    (base.after n s).openScenario? = s.openScenario?.map (Scenario.shift n) := by
  simp only [openScenario?, after, Option.map_map]
  rfl

theorem closeTable_after (s : Session) :
    (base.after n s).closeTable = base.after n s.closeTable := by
  have hphase : (base.after n s).phase = s.phase := rfl
  cases h : s.phase.table? with
  | none =>
    rw [closeTable_of_table?_eq_none h, closeTable_of_table?_eq_none (by rw [hphase, h])]
  | some t =>
    rw [closeTable_of_table?_eq_some h, closeTable_of_table?_eq_some (t := t) (by rw [hphase, h])]
    simp only [after, Option.map_map]
    rfl

theorem owner?_closeTable {s : Session} (h : s.phase.owner? ≠ some .feature) :
    s.closeTable.phase.owner? ≠ some .feature := by
  cases ht : s.phase.table? with
  | none => rwa [closeTable_of_table?_eq_none ht]
  | some t => simp [closeTable_of_table?_eq_some ht, Phase.owner?]

theorem any_isOutline_after (s : Session) :
    (base.after n s).scenario.any Scenario.isOutline = s.scenario.any Scenario.isOutline := by
  rw [after, Option.any_map]
  rfl

theorem openScenario_after {s : Session} (h : s.phase.owner? ≠ some .feature) (number : Nat)
    (kind : ScenarioKind) (name : String) :
    (base.after n s).openScenario (number + n) kind name =
      base.after n (s.openScenario number kind name) := by
  simp only [openScenario, flush_after base n h]
  simp [after, Scenario.shift, Option.toList_map]

theorem content_after {s : Session} (h : s.phase.owner? ≠ some .feature) (number : Nat)
    (text : String) {line : Line} (hline : line.feature? = none) :
    (base.after n s).content (number + n) text line =
      base.after n (s.content number text line) := by
  cases line with
  | feature name => simp [Line.feature?] at hline
  | fence f =>
    simp only [content, flush_after base n h]
    rfl
  | step =>
    have hopen : (base.after n s).scenario.isSome = s.scenario.isSome := Option.isSome_map
    simp only [content, hopen]
    split
    · simp only [addStep, flush_after base n h]
      simp only [after, Option.map_map]
      rfl
    · rfl
  | scenario kind name => exact openScenario_after base n h number kind name
  | examples name =>
    simp only [content, any_isOutline_after]
    split
    · simp only [openExamples, flush_after base n h]
      rfl
    · rfl
  | _ => rfl

/-- A line that opens no feature does the same to a session whatever has been read before. -/
theorem take_after {s : Session} (h : s.phase.owner? ≠ some .feature) (number : Nat)
    {cs : List Char} (hcs : (Line.classify cs).feature? = none) :
    (base.after n s).take (number + n) cs = base.after n (s.take number cs) := by
  have hclosed := owner?_closeTable h
  have hcontent := content_after base n hclosed number (String.ofList cs) hcs
  rw [← closeTable_after] at hcontent
  cases hc : Line.classify cs with
  | blank => simp only [take, hc, addGap_eq]; rfl
  | comment => simp only [take, hc]
  | row => simp only [take, hc, addRow_eq]; rfl
  | _ => simpa only [take, hc] using hcontent

/-- Once a scenario is open, only the keyword line of a feature makes free text describe the
feature. -/
theorem owner?_take {s : Session} (h : s.phase.owner? ≠ some .feature) (number : Nat)
    {cs : List Char} (hcs : (Line.classify cs).feature? = none) :
    (s.take number cs).phase.owner? ≠ some .feature := by
  have hclosed := owner?_closeTable h
  cases hc : Line.classify cs with
  | blank => simpa [take, hc, addGap_eq] using h
  | comment => simpa [take, hc] using h
  | row =>
    simp only [take, hc, addRow_eq]
    cases hp : s.phase <;> simp_all [rowPhase, Phase.owner?]
  | feature name => simp [hc, Line.feature?] at hcs
  | step =>
    simp only [take, hc, content]
    split <;> simpa [addStep, addText] using hclosed
  | scenario kind name => simp [take, hc, content, openScenario, Phase.owner?]
  | examples name =>
    simp only [take, hc, content]
    split
    · simp [openExamples, Phase.owner?]
    · simpa [addText] using hclosed
  | _ => simpa [take, hc, content, addText] using hclosed

/-- The lines outside fenced blocks after a line has been read. -/
theorem outside_feed_subset (s : Session) (number : Nat) (raw : String) (ls : List String) :
    outside (s.feed number raw).fence (number + 1) ls ⊆ outside s.fence number (raw :: ls) := by
  intro l hl
  cases hf : s.fence with
  | some f =>
    rw [feed_of_fence_eq_some hf] at hl
    rw [outside]
    split <;> simpa [*] using hl
  | none =>
    rw [feed_of_fence_eq_none hf, take_fence hf] at hl
    rw [outside]
    cases hopen : fence? (Text.trimChars raw.toList) with
    | some f => simpa only [hopen] using hl
    | none =>
      rw [hopen] at hl
      exact List.mem_cons_of_mem _ hl

/-- A line does the same whatever has been read before, unless it opens a feature. -/
theorem feed_after {s : Session} (h : s.phase.owner? ≠ some .feature) (number : Nat) {raw : String}
    {ls : List String} (hls : ∀ l ∈ outside s.fence number (raw :: ls), l.isFeature = false) :
    (base.after n s).feed (number + n) raw = base.after n (s.feed number raw) ∧
      (s.feed number raw).phase.owner? ≠ some .feature := by
  have hfence : (base.after n s).fence = s.fence := rfl
  cases hf : s.fence with
  | some f =>
    rw [feed_of_fence_eq_some hf, feed_of_fence_eq_some (hfence.trans hf)]
    exact ⟨rfl, h⟩
  | none =>
    rw [feed_of_fence_eq_none hf, feed_of_fence_eq_none (hfence.trans hf)]
    have hclass : (Line.classify (Text.trimChars raw.toList)).feature? = none := by
      rw [hf, outside] at hls
      cases hopen : fence? (Text.trimChars raw.toList) with
      | some f =>
        rw [Line.classify_eq_fence_iff.2 hopen]
        rfl
      | none =>
        have hraw := hls ⟨number, Text.trimChars raw.toList⟩ (by simp [hopen])
        rwa [isFeature_eq_classify, Option.isSome_eq_false_iff, Option.isNone_iff_eq_none] at hraw
    exact ⟨take_after base n h number hclass, owner?_take h number hclass⟩

/-- Lines do the same whatever has been read before, unless one of them opens a feature. -/
theorem feedAll_after {s : Session} (h : s.phase.owner? ≠ some .feature) (number : Nat)
    {ls : List String} (hls : ∀ l ∈ outside s.fence number ls, l.isFeature = false) :
    (base.after n s).feedAll (number + n) ls = base.after n (s.feedAll number ls) ∧
      (s.feedAll number ls).phase.owner? ≠ some .feature := by
  induction ls generalizing s number with
  | nil => exact ⟨rfl, h⟩
  | cons raw ls ih =>
    obtain ⟨hfeed, howner⟩ := feed_after base n h number hls
    have hrest : ∀ l ∈ outside (s.feed number raw).fence (number + 1) ls, l.isFeature = false :=
      fun l hl => hls l (s.outside_feed_subset number raw ls hl)
    rw [feedAll, feedAll, hfeed, Nat.add_right_comm number n 1]
    exact ih howner (number + 1) hrest

/-- The scenarios of a session that goes on after another one follow those of the other. -/
theorem finish_after {s : Session} (h : s.phase.owner? ≠ some .feature)
    (hbase : base.phase.table? = none) :
    (base.after n s).finish = { base.feature with
      scenarios := base.feature.scenarios ++ s.finish.scenarios.map (Scenario.shift n) } := by
  have hopen : base.openScenario? = base.scenario := by
    rw [openScenario?, hbase]
    simp
  rw [finish, flush_after base n h, feature, openScenario?_after, finish, feature, feature, hopen]
  simp [after, Option.toList_map]

/-! ## Up to the keyword line -/

theorem settle_addGap (s : Session) : s.addGap.settle = s.settle := by
  have hgaps : dropGaps (withGap s.buffer) = dropGaps s.buffer := by
    unfold withGap
    split
    · rfl
    · exact dropGaps_concat_gap s.buffer
  rw [addGap_eq]
  cases ht : s.phase.table? with
  | none =>
    have ht' : ({ s with buffer := withGap s.buffer } : Session).phase.table? = none := ht
    rw [settle, settle, closeTable_of_table?_eq_none ht, closeTable_of_table?_eq_none ht', flush_eq,
      flush_eq, paragraph, paragraph, hgaps]
  | some t =>
    have ht' : ({ s with buffer := withGap s.buffer } : Session).phase.table? = some t := ht
    rw [settle, settle, closeTable_of_table?_eq_some ht, closeTable_of_table?_eq_some ht']

/-- Tags wait, and empty lines and comments do nothing that lasts. -/
theorem settle_feed_lead {s : Session} (hf : s.fence = none) (number : Nat) {raw : String}
    (h : isLead (Text.trimChars raw.toList) = true) :
    (s.feed number raw).settle = { s.settle with
      pending := s.pending ++
        ((tagTokens? (Text.trimChars raw.toList)).getD []).filterMap Tag.of? } := by
  rw [isLead_eq_classify] at h
  rw [feed_of_fence_eq_none hf, tagTokens?_eq_classify, take]
  cases hc : Line.classify (Text.trimChars raw.toList) with
  | blank =>
    simp only [settle_addGap, Line.tags?, Option.getD_none, List.filterMap_nil, List.append_nil]
    rw [← settle_pending]
  | comment =>
    simp only [Line.tags?, Option.getD_none, List.filterMap_nil, List.append_nil]
    rw [← settle_pending]
  | tags names =>
    simp only [content, settle_closeTable_pending, closeTable_pending, Line.tags?, Option.getD_some]
  | _ => simp [hc] at h

/-- A session without scenarios that has the same tags waiting does the same up to a keyword line of
a scenario and from there on, apart from what has been read before. -/
theorem feedAll_leadsToScenario {s t : Session} (hs : s.fence = none)
    (ht : t.fence = none) (hpending : t.pending = s.pending)
    (hclosed : t.settle.closed = []) (hscenario : t.settle.scenario = none) (n number : Nat)
    {ls : List String} (hls : leadsToScenario ls = true)
    (hfeature : ∀ l ∈ outside none number ls, l.isFeature = false) :
    s.feedAll (number + n) ls = s.settle.after n (t.feedAll number ls) ∧
      (t.feedAll number ls).phase.owner? ≠ some .feature := by
  induction ls generalizing s t number with
  | nil => simp [leadsToScenario] at hls
  | cons raw ls ih =>
    have hrest : ∀ l ∈ outside (t.feed number raw).fence (number + 1) ls,
        l.isFeature = false := fun l hl =>
      hfeature l (ht ▸ t.outside_feed_subset number raw ls hl)
    rw [feedAll, feedAll, Nat.add_right_comm number n 1]
    rw [leadsToScenario] at hls
    by_cases hlead : isLead (Text.trimChars raw.toList) = true
    · have hsl := settle_feed_lead hs (number + n) hlead
      have htl := settle_feed_lead ht number hlead
      have hfence : ∀ {u : Session} (k : Nat), u.fence = none → (u.feed k raw).fence = none := by
        intro u k hu
        rw [← settle_fence, settle_feed_lead hu k hlead, settle_fence, hu]
      have hnext := ih (s := s.feed (number + n) raw) (t := t.feed number raw)
        (hfence _ hs) (hfence _ ht)
        (by rw [← settle_pending, htl, ← settle_pending (s.feed _ _), hsl, hpending])
        (by rw [htl]; exact hclosed) (by rw [htl]; exact hscenario) (number + 1)
        (by simpa [hlead] using hls) (hfence number ht ▸ hrest)
      rwa [hsl] at hnext
    · obtain ⟨⟨kind, name⟩, hkeyword⟩ : ∃ found,
          scenarioHeadline? (Text.trimChars raw.toList) = some found :=
        Option.isSome_iff_exists.1 (by simpa [hlead] using hls)
      have hopened : s.feed (number + n) raw = s.settle.after n (t.feed number raw) := by
        rw [feed_keyword hs _ hkeyword, feed_keyword ht _ hkeyword]
        simp [after, inside, next, hclosed, hscenario, hpending, Scenario.shift]
      have howner : (t.feed number raw).phase.owner? ≠ some .feature := by
        rw [feed_keyword ht _ hkeyword]
        simp [inside, Phase.owner?]
      rw [hopened]
      exact feedAll_after s.settle n howner (number + 1) hrest

end Session

/-! ## Documents in two parts -/

/-- Let the lines of a text be those of a front part and of a back part. If every fenced block of
the front ends there and no tag of it waits for an element, and if the back begins with a scenario,
apart from empty lines, comments and tags, and opens no feature, then the text has the name, the
description and the tags of the front, and the scenarios of the front are followed by those of the
back, with their lines counted on. -/
theorem read_parted {text front back : String} (path : String)
    (hlines : Text.lines text = Text.lines front ++ Text.lines back)
    (hfence : fenceAfter none (Text.lines front) = none)
    (hwaiting : waiting (outsideLines front) = [])
    (hback : leadsToScenario (Text.lines back) = true)
    (hfeature : ∀ l ∈ outsideLines back, l.isFeature = false) :
    read text path = { read front path with
      scenarios := (read front path).scenarios ++
        (read back path).scenarios.map (Scenario.shift (Text.lines front).length) } := by
  have hs : ((Session.start path).feedAll 1 (Text.lines front)).fence = none := by
    rw [Session.fence_feedAll]
    exact hfence
  have hpending : ((Session.start path).feedAll 1 (Text.lines front)).pending = [] := by
    have hframe := congrArg Frame.pending (frame_read front path)
    rw [pending_frameOf, hwaiting] at hframe
    exact hframe
  obtain ⟨hrun, howner⟩ := Session.feedAll_leadsToScenario (t := Session.start path) hs rfl
    hpending.symm rfl rfl (Text.lines front).length 1 hback hfeature
  simp only [read, readLines]
  rw [hlines, Session.feedAll_append, hrun,
    Session.finish_after _ _ howner (Session.settle_table? _), ← Session.finish_eq]

/-- A document that ends within a table of examples. -/
def stall : String := "@x\nFeature: F\nScenario Outline: pay\nExamples:\n|n|\n|3|\n"

/-- Scenarios with tags in front, and the keyword of a feature within a fenced block. -/
def closing : String := "#\n@y\nRule: calm\n```\nFeature:\n```\n@z\nExample: go\n"

theorem read_parted_stall :
    Text.lines (stall ++ closing) = Text.lines stall ++ Text.lines closing ∧
      fenceAfter none (Text.lines stall) = none ∧ waiting (outsideLines stall) = [] ∧
      leadsToScenario (Text.lines closing) = true ∧
      (∀ l ∈ outsideLines closing, l.isFeature = false) ∧
      read (stall ++ closing) "" = { read stall "" with
        scenarios := (read stall "").scenarios ++
          (read closing "").scenarios.map (Scenario.shift (Text.lines stall).length) } ∧
      (read (stall ++ closing) "").scenarios.map (fun sc => (sc.name, sc.line)) =
        [("pay", 3), ("calm", 9), ("go", 14)] := by
  have hlines : Text.lines (stall ++ closing) = Text.lines stall ++ Text.lines closing := by
    decide +kernel
  have hfence : fenceAfter none (Text.lines stall) = none := by decide +kernel
  have hwaiting : waiting (outsideLines stall) = [] := by decide +kernel
  have hback : leadsToScenario (Text.lines closing) = true := by decide +kernel
  have hfeature : ∀ l ∈ outsideLines closing, l.isFeature = false := by decide +kernel
  exact ⟨hlines, hfence, hwaiting, hback, hfeature,
    read_parted "" hlines hfence hwaiting hback hfeature, by decide +kernel⟩

end Document

end FeatureAudit
