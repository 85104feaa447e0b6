import FeatureAudit.Proofs.Document.Opening
import FeatureAudit.Proofs.Document.Prose

/-!
# No free text is lost

Free text is every line that has no other meaning where it stands (`isFreeText`), and its holder is
decided by the last line before it that opens an element (`holder`). Descriptions hold exactly the
free text of their elements, line by line and in order, and are set in paragraphs
(`freeText_read`).
-/

set_option autoImplicit false

namespace FeatureAudit.Document

/-! ## Free text and its holders -/

/-- An element with a description. -/
inductive Holder where
  /-- The feature. -/
  | feature
  /-- The scenario with an index, counted from zero. -/
  | scenario (index : Nat)
  deriving DecidableEq, Repr

/-- Whether a line outside fenced blocks is free text after some lines: it is neither empty nor a
comment, a line of tags or a row, it opens no element, and it is no step of a scenario. -/
def isFreeText (before : List NumberedLine) (l : NumberedLine) : Bool :=
  !l.text.isEmpty && l.text.head? != some '#' && (tagTokens? l.text).isNone && !isRow l.text &&
    (opens? before l).isNone && !(isStep l.text && before.any NumberedLine.isScenario)

/-- The holder of free text after some lines: the element opened last, where a table of examples
stands for the latest scenario. -/
def holder (before : List NumberedLine) : Holder :=
  match (contexts before).reverse.findSome? fun p => opens? p.1 p.2 with
  | none | some .feature => .feature
  | some (.scenario _) | some .examples =>
    .scenario (before.countP NumberedLine.isScenario - 1)

/-- The free text of a holder. -/
def freeText (who : Holder) (ls : List NumberedLine) : List String :=
  ((contexts ls).filter fun p => isFreeText p.1 p.2 && holder p.1 == who).map
    fun p => String.ofList p.2.text

/-! ## One line more -/

theorem freeText_concat (who : Holder) (before : List NumberedLine) (l : NumberedLine) :
    freeText who (before ++ [l]) = freeText who before ++
      if isFreeText before l && holder before == who then [String.ofList l.text] else [] := by
  rw [freeText, contexts_concat, List.filter_append, List.map_append, ← freeText]
  cases h : isFreeText before l && holder before == who <;> simp [h]

theorem countP_isScenario_concat (before : List NumberedLine) (l : NumberedLine) :
    (before ++ [l]).countP NumberedLine.isScenario =
      before.countP NumberedLine.isScenario +
        match opens? before l with
        | some (.scenario _) => 1
        | _ => 0 := by
  rw [List.countP_append, List.countP_singleton, isScenario_eq_classify, opens?_eq_classify]
  cases Line.classify l.text with
  | feature name => cases before.any NumberedLine.isFeature <;> simp [Line.scenario?]
  | examples name =>
    by_cases hk : latestKind? before = some .outline <;> simp [Line.scenario?, hk]
  | _ => simp [Line.scenario?]

theorem holder_concat (before : List NumberedLine) (l : NumberedLine) :
    holder (before ++ [l]) =
      match opens? before l with
      | none => holder before
      | some .feature => .feature
      | some (.scenario _) => .scenario (before.countP NumberedLine.isScenario)
      | some .examples => .scenario (before.countP NumberedLine.isScenario - 1) := by
  rw [holder, contexts_concat, List.reverse_concat, List.findSome?_cons,
    countP_isScenario_concat]
  cases h : opens? before l with
  | none => simp [holder]
  | some e => cases e <;> simp

theorem any_isScenario_eq (ls : List NumberedLine) :
    ls.any NumberedLine.isScenario = (latestKind? ls).isSome := by
  induction ls using List.reverseRecOn with
  | nil => rfl
  | append_singleton before l ih =>
    rw [List.any_append, ih, latestKind?_concat, List.any_cons, List.any_nil, Bool.or_false,
      NumberedLine.isScenario]
    cases scenarioHeadline? l.text <;> simp

/-- A scenario that holds free text is the latest one. -/
theorem countP_of_holder_eq {ls : List NumberedLine} {i : Nat} (h : holder ls = .scenario i) :
    ls.countP NumberedLine.isScenario = i + 1 := by
  induction ls using List.reverseRecOn generalizing i with
  | nil => simp [holder, contexts, contextsAfter] at h
  | append_singleton before l ih =>
    rw [holder_concat] at h
    rw [countP_isScenario_concat]
    cases ho : opens? before l with
    | none =>
      rw [ho] at h
      exact ih h
    | some e =>
      rw [ho] at h
      cases e with
      | feature => simp at h
      | scenario kind => simpa using h
      | examples =>
        -- a table of examples is opened only after the keyword line of an outline
        have hpos : 0 < before.countP NumberedLine.isScenario := by
          rw [opens?_eq_classify] at ho
          rw [List.countP_pos_iff, ← List.any_eq_true, any_isScenario_eq]
          cases hc : Line.classify l.text <;> simp_all
        simp only [Holder.scenario.injEq] at h
        simp only [Nat.add_zero]
        omega

/-- No scenario holds free text before its keyword line. -/
theorem freeText_eq_nil {ls : List NumberedLine} {i : Nat}
    (h : ls.countP NumberedLine.isScenario ≤ i) : freeText (.scenario i) ls = [] := by
  induction ls using List.reverseRecOn with
  | nil => rfl
  | append_singleton before l ih =>
    rw [countP_isScenario_concat] at h
    have hne : (holder before == .scenario i) = false := by
      rw [beq_eq_false_iff_ne]
      intro heq
      have := countP_of_holder_eq heq
      omega
    rw [freeText_concat, ih (by omega), hne]
    simp

/-! ## The free text of a document by its holders -/

/-- The element in hand of a holder. -/
def Holder.owner : Holder → Owner
  | .feature => .feature
  | .scenario _ => .scenario

theorem proseOf_concat (before : List NumberedLine) (l : NumberedLine) :
    proseOf (before ++ [l]) = (proseOf before).step (frameOf before) l := by
  have hframe : ∀ ls : List NumberedLine,
      (ls.foldl (fun st l => (st.1.step l, st.2.step st.1 l)) (Frame.start, Prose.start)).1 =
        frameOf ls := by
    intro ls
    induction ls using List.reverseRecOn with
    | nil => rfl
    | append_singleton ls l ih => rw [List.foldl_concat, frameOf_concat, ih]
  rw [proseOf, List.foldl_concat, hframe]
  rfl

/-- A line is added to the free text, opens an element, or does nothing to the free text. -/
theorem step_proseOf (pr : Prose) (before : List NumberedLine) {l : NumberedLine}
    (hl : fence? l.text = none) :
    pr.step (frameOf before) l =
      if isFreeText before l then pr.add (String.ofList l.text)
      else
        match opens? before l with
        | none => pr
        | some .feature => { pr with owner := .feature }
        | some (.scenario _) =>
          { pr with closed := pr.closed ++ pr.last.toList, last := some [], owner := .scenario }
        | some .examples => { pr with owner := .scenario } := by
  have hlast : (frameOf before).last.isSome = before.any NumberedLine.isScenario := by
    rw [any_isScenario_eq, ← kind_frameOf, Option.isSome_map]
  rw [fence?_eq_classify] at hl
  rw [Prose.step, isFreeText, hlast, opened_frameOf, isOutline_frameOf, opens?_eq_classify,
    tagTokens?_eq_classify, isRow_eq_classify, isStep_eq_classify]
  have hempty : l.text.isEmpty = decide (Line.classify l.text = .blank) := by
    rw [Bool.eq_iff_iff, decide_eq_true_iff, Line.classify_eq_blank_iff, List.isEmpty_iff]
  have hcomment : (l.text.head? != some '#') = !decide (Line.classify l.text = .comment) := by
    rw [bne, beq_eq_decide, decide_eq_decide.2 Line.classify_eq_comment_iff.symm]
  rw [hempty, hcomment]
  cases hc : Line.classify l.text with
  | fence f => simp [hc, Line.fence?] at hl
  | feature name => cases before.any NumberedLine.isFeature <;> simp [Line.tags?]
  | examples name =>
    by_cases hk : latestKind? before = some .outline <;> simp [hk, Line.tags?]
  | step => cases before.any NumberedLine.isScenario <;> simp [Line.tags?]
  | _ => simp [Line.tags?]

/-- A line that opens an element is no free text. -/
theorem isFreeText_of_opens? {before : List NumberedLine} {l : NumberedLine} {e : Element}
    (h : opens? before l = some e) : isFreeText before l = false := by
  simp [isFreeText, h]

theorem owner_proseOf {ls : List NumberedLine} (h : ∀ l ∈ ls, fence? l.text = none) :
    (proseOf ls).owner = (holder ls).owner := by
  induction ls using List.reverseRecOn with
  | nil => rfl
  | append_singleton before l ih =>
    have hbefore := ih fun m hm => h m (List.mem_append_left _ hm)
    rw [proseOf_concat, step_proseOf _ _ (h l (by simp)), holder_concat]
    cases ho : opens? before l with
    | none =>
      cases hf : isFreeText before l with
      | false => simpa using hbefore
      | true =>
        simp only [if_true, Prose.add]
        split <;> exact hbefore
    | some e =>
      rw [isFreeText_of_opens? ho]
      cases e <;> rfl

/-- The feature's free text. -/
theorem feature_proseOf {ls : List NumberedLine} (h : ∀ l ∈ ls, fence? l.text = none) :
    (proseOf ls).feature = freeText .feature ls := by
  induction ls using List.reverseRecOn with
  | nil => rfl
  | append_singleton before l ih =>
    have hbefore : ∀ m ∈ before, fence? m.text = none := fun m hm =>
      h m (List.mem_append_left _ hm)
    rw [proseOf_concat, step_proseOf _ _ (h l (by simp)), freeText_concat, ← ih hbefore]
    cases hf : isFreeText before l with
    | true =>
      simp only [if_true, Prose.add, owner_proseOf hbefore]
      cases holder before <;> simp [Holder.owner]
    | false =>
      cases ho : opens? before l with
      | none => simp
      | some e => cases e <;> simp

/-- The first scenarios of a document, numbered from zero, have the free text that `held` gives. -/
def HeldBy (pr : Prose) (held : Nat → List String) : Nat → Prop
  | 0 => pr.closed = [] ∧ pr.last = none
  | n + 1 => pr.closed = (List.range n).map held ∧ pr.last = some (held n)

theorem HeldBy.scenarios {pr : Prose} {held : Nat → List String} {n : Nat}
    (h : HeldBy pr held n) : pr.scenarios = (List.range n).map held := by
  cases n with
  | zero => rw [Prose.scenarios, h.1, h.2]; rfl
  | succ n => rw [Prose.scenarios, h.1, h.2, List.range_succ, List.map_append]; rfl

theorem HeldBy.open {pr : Prose} {held : Nat → List String} {n : Nat} (h : HeldBy pr held n)
    (hnew : held n = []) : HeldBy
      { pr with closed := pr.closed ++ pr.last.toList, last := some [], owner := .scenario }
      held (n + 1) :=
  ⟨h.scenarios, by rw [hnew]⟩

theorem HeldBy.add {pr : Prose} {held more : Nat → List String} {n : Nat} {line : String}
    (h : HeldBy pr held (n + 1)) (howner : pr.owner = .scenario)
    (hother : ∀ i < n, more i = held i) (hlatest : more n = held n ++ [line]) :
    HeldBy (pr.add line) more (n + 1) := by
  have hmap : (List.range n).map more = (List.range n).map held :=
    List.map_congr_left fun i hi => hother i (List.mem_range.1 hi)
  rw [Prose.add, howner]
  refine ⟨?_, ?_⟩
  · rw [hmap, h.1]
  · rw [hlatest, h.2]
    rfl

/-- The scenarios' free text. -/
theorem heldBy_proseOf {ls : List NumberedLine} (h : ∀ l ∈ ls, fence? l.text = none) :
    HeldBy (proseOf ls) (fun i => freeText (.scenario i) ls)
      (ls.countP NumberedLine.isScenario) := by
  induction ls using List.reverseRecOn with
  | nil => exact ⟨rfl, rfl⟩
  | append_singleton before l ih =>
    have hbefore : ∀ m ∈ before, fence? m.text = none := fun m hm =>
      h m (List.mem_append_left _ hm)
    have hheld := ih hbefore
    rw [proseOf_concat, step_proseOf _ _ (h l (by simp)), countP_isScenario_concat]
    simp only [freeText_concat]
    cases hf : isFreeText before l with
    | true =>
      have ho : opens? before l = none := by
        cases ho : opens? before l with
        | none => rfl
        | some e => rw [isFreeText_of_opens? ho] at hf; exact absurd hf Bool.false_ne_true
      have howner := owner_proseOf hbefore
      rw [ho, if_pos rfl, Nat.add_zero]
      cases hw : holder before with
      | feature =>
        have hother : ∀ i, (Holder.feature == Holder.scenario i) = false := fun _ => rfl
        rw [hw] at howner
        rw [Prose.add, howner]
        simp only [hother, Bool.and_false, Bool.false_eq_true, if_false, List.append_nil]
        exact hheld
      | scenario j =>
        rw [hw] at howner
        rw [countP_of_holder_eq hw] at hheld ⊢
        refine hheld.add howner ?_ ?_
        · intro i hi
          have hne : j ≠ i := by omega
          simp [hne]
        · simp
    | false =>
      simp only [Bool.false_and, Bool.false_eq_true, if_false, List.append_nil]
      cases ho : opens? before l with
      | none => exact hheld
      | some e =>
        cases e with
        | feature => exact hheld
        | examples => exact hheld
        | scenario kind => exact hheld.open (freeText_eq_nil (Nat.le_refl _))

/-! ## Reading a document -/

/-- The lines of each description that are not empty are exactly the free text that its element
holds, in order; and no description begins or ends with a line feed or has three of them in a
row. -/
theorem freeText_read (text path : String) :
    proseLines (read text path).description = freeText .feature (outsideLines text) ∧
      (read text path).scenarios.map (fun sc => proseLines sc.description) =
        (List.range ((outsideLines text).countP NumberedLine.isScenario)).map
          (fun i => freeText (.scenario i) (outsideLines text)) ∧
      WellSpaced (read text path).description.toList ∧
      ∀ sc ∈ (read text path).scenarios, WellSpaced sc.description.toList := by
  have hfence : ∀ l ∈ outsideLines text, fence? l.text = none := fun l hl =>
    fence?_of_mem_outside hl
  obtain ⟨hfeature, hscenarios⟩ := read_prose text path
  obtain ⟨hhead, hrest⟩ := isDescription_read text path
  refine ⟨?_, ?_, hhead.wellSpaced, fun sc hsc => (hrest sc hsc).wellSpaced⟩
  · rw [hfeature, feature_proseOf hfence]
  · rw [hscenarios, (heldBy_proseOf hfence).scenarios]

end FeatureAudit.Document
