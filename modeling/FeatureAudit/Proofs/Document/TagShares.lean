import FeatureAudit.Proofs.Document.Opening

/-!
# Tags go to the next element

Tags wait for the next line that opens an element, however many other lines stand between. Every
such line takes all tags since the one before it (`shares`); the feature and the scenarios that are
no background keep their share, and no other share reaches an element (`shares_read`).
-/

set_option autoImplicit false

namespace FeatureAudit.Document

/-! ## Shares of the tags -/

/-- The tags on a line. -/
def NumberedLine.tokens (l : NumberedLine) : List String := (tagTokens? l.text).getD []

/-- The lines after the last one that opens an element. -/
def sinceOpening (ls : List NumberedLine) : List NumberedLine :=
  ((contexts ls).reverse.takeWhile fun p => (opens? p.1 p.2).isNone).reverse.map Prod.snd

/-- The tags that no line has taken yet. -/
def waiting (ls : List NumberedLine) : List String := (sinceOpening ls).flatMap NumberedLine.tokens

/-- Every line that opens an element, as the element and the tags that it takes. -/
def shares (ls : List NumberedLine) : List (Element × List String) :=
  (contexts ls).filterMap fun p => (opens? p.1 p.2).map fun e => (e, waiting p.1)

/-- What the feature keeps of a share. -/
def featureShare : Element × List String → List String
  | (.feature, names) => names
  | _ => []

/-- What a scenario keeps of a share, with its kind; a background keeps nothing. -/
def scenarioShare : Element × List String → Option (ScenarioKind × List String)
  | (.scenario kind, names) => some (kind, if kind = .background then [] else names)
  | _ => none

theorem sinceOpening_concat (before : List NumberedLine) (l : NumberedLine) :
    sinceOpening (before ++ [l]) =
      if (opens? before l).isSome then [] else sinceOpening before ++ [l] := by
  rw [sinceOpening, contexts_concat, List.reverse_concat, List.takeWhile_cons]
  cases opens? before l <;> simp [sinceOpening]

theorem waiting_concat (before : List NumberedLine) (l : NumberedLine) :
    waiting (before ++ [l]) =
      if (opens? before l).isSome then [] else waiting before ++ l.tokens := by
  rw [waiting, sinceOpening_concat]
  split <;> simp [waiting]

theorem shares_concat (before : List NumberedLine) (l : NumberedLine) :
    shares (before ++ [l]) =
      shares before ++ ((opens? before l).map fun e => (e, waiting before)).toList := by
  rw [shares, contexts_concat, List.filterMap_append]
  cases h : opens? before l <;> simp [shares, h]

/-- A line that opens an element carries no tags. -/
theorem tokens_eq_nil_of_opens? {before : List NumberedLine} {l : NumberedLine}
    (h : (opens? before l).isSome) : l.tokens = [] := by
  rw [NumberedLine.tokens, tagTokens?_eq_classify]
  rw [opens?_eq_classify] at h
  cases hc : Line.classify l.text <;> simp_all [Line.tags?]

/-- Every tag of a document is in one share, or waits at its end. -/
theorem flatMap_tokens_eq (ls : List NumberedLine) :
    ls.flatMap NumberedLine.tokens = (shares ls).flatMap Prod.snd ++ waiting ls := by
  induction ls using List.reverseRecOn with
  | nil => rfl
  | append_singleton before l ih =>
    rw [List.flatMap_append, ih, shares_concat, waiting_concat]
    cases h : opens? before l with
    | none => simp
    | some e =>
      have htokens : l.tokens = [] := tokens_eq_nil_of_opens? (Option.isSome_of_eq_some h)
      simp [htokens]

/-- Every tag in a share is a name on a line of tags. -/
theorem exists_tokens_of_mem_shares {ls : List NumberedLine} {share : Element × List String}
    (h : share ∈ shares ls) {name : String} (hname : name ∈ share.2) :
    ∃ l ∈ ls, name ∈ l.tokens := by
  refine List.mem_flatMap.1 ?_
  rw [flatMap_tokens_eq]
  exact List.mem_append_left _ (List.mem_flatMap.2 ⟨share, h, hname⟩)

theorem signed_of_mem_shares {ls : List NumberedLine} {share : Element × List String}
    (h : share ∈ shares ls) {name : String} (hname : name ∈ share.2) :
    name.toList.head? = some sigil := by
  obtain ⟨l, -, htoken⟩ := exists_tokens_of_mem_shares h hname
  rw [NumberedLine.tokens] at htoken
  cases hl : tagTokens? l.text with
  | none => simp [hl] at htoken
  | some names => exact (word_of_mem_tagTokens? hl (by simpa [hl] using htoken)).1

/-- Names that carry the sign are those of the tags that they name. -/
theorem map_name_named {names : List String} (h : ∀ name ∈ names, name.toList.head? = some sigil) :
    (names.map Tag.named).map Tag.name = names := by
  rw [List.map_map]
  exact (List.map_congr_left fun name hname => Tag.name_named_of_signed (h name hname)).trans
    (List.map_id _)

theorem featureShare_subset (p : Element × List String) : featureShare p ⊆ p.2 := by
  obtain ⟨e, names⟩ := p
  cases e <;> simp [featureShare]

theorem subset_of_scenarioShare {p : Element × List String} {q : ScenarioKind × List String}
    (h : scenarioShare p = some q) : q.2 ⊆ p.2 := by
  obtain ⟨e, names⟩ := p
  cases e with
  | scenario kind =>
    rw [← Option.some.inj h]
    by_cases hb : kind = .background <;> simp [hb]
  | _ => cases h

/-- The feature is opened at most once. -/
theorem countP_feature_shares (ls : List NumberedLine) :
    ((shares ls).countP fun p => p.1 = .feature) =
      if ls.any NumberedLine.isFeature then 1 else 0 := by
  induction ls using List.reverseRecOn with
  | nil => rfl
  | append_singleton before l ih =>
    rw [shares_concat, List.countP_append, ih, opens?_eq_classify, List.any_append, List.any_cons,
      List.any_nil, Bool.or_false, isFeature_eq_classify]
    cases Line.classify l.text with
    | feature name =>
      cases before.any NumberedLine.isFeature <;> simp [Line.feature?]
    | examples name =>
      by_cases hk : latestKind? before = some .outline <;> simp [Line.feature?, hk]
    | _ => simp [Line.feature?]

/-! ## The frame holds the shares -/

/-- The tags that wait are those that no line has taken. -/
theorem pending_frameOf (ls : List NumberedLine) :
    (frameOf ls).pending = (waiting ls).map Tag.named := by
  induction ls using List.reverseRecOn with
  | nil => rfl
  | append_singleton before l ih =>
    rw [frameOf_concat, waiting_concat, opens?_eq_classify, Frame.step, NumberedLine.tokens,
      tagTokens?_eq_classify, isOutline_frameOf, opened_frameOf, ih]
    cases hc : Line.classify l.text with
    | tags names =>
      have hnames := filterMap_of?_tagTokens? (Line.classify_eq_tags_iff.1 hc)
      simp [hnames, Line.tags?]
    | feature name =>
      cases before.any NumberedLine.isFeature <;> simp [ih, Line.tags?]
    | examples name =>
      by_cases hk : latestKind? before = some .outline <;> simp [ih, hk, Line.tags?]
    | scenario kind name => simp
    | _ => simp [ih, Line.tags?]

/-- The feature has the share of its keyword line. -/
theorem tags_frameOf (ls : List NumberedLine) :
    (frameOf ls).tags = ((shares ls).flatMap featureShare).map Tag.named := by
  induction ls using List.reverseRecOn with
  | nil => rfl
  | append_singleton before l ih =>
    rw [frameOf_concat, shares_concat, opens?_eq_classify, Frame.step, isOutline_frameOf,
      opened_frameOf, pending_frameOf]
    cases Line.classify l.text with
    | feature name =>
      cases before.any NumberedLine.isFeature <;> simp [ih, featureShare]
    | examples name =>
      by_cases hk : latestKind? before = some .outline <;> simp [ih, hk, featureShare]
    | scenario kind name => simp [ih, featureShare]
    | _ => simp [ih]

/-- Only the keyword line of a scenario changes which scenarios carry which tags. -/
theorem scenarioTags_step (fr : Frame) (l : NumberedLine) :
    (fr.step l).scenarios.map (fun sc => (sc.kind, sc.tags)) =
      fr.scenarios.map (fun sc => (sc.kind, sc.tags)) ++
        match Line.classify l.text with
        | .scenario kind _ => [(kind, if kind = .background then [] else fr.pending)]
        | _ => [] := by
  rw [Frame.step]
  cases Line.classify l.text with
  | feature name => simp only; split <;> simp [Frame.scenarios]
  | examples name => simp only; split <;> simp [Frame.scenarios]
  | step => cases hlast : fr.last <;> simp [Frame.scenarios, hlast]
  | scenario kind name => simp [Frame.scenarios]
  | _ => simp [Frame.scenarios]

/-- The scenarios have the shares of their keyword lines. -/
theorem scenarioTags_frameOf (ls : List NumberedLine) :
    (frameOf ls).scenarios.map (fun sc => (sc.kind, sc.tags)) =
      ((shares ls).filterMap scenarioShare).map fun p => (p.1, p.2.map Tag.named) := by
  induction ls using List.reverseRecOn with
  | nil => rfl
  | append_singleton before l ih =>
    rw [frameOf_concat, scenarioTags_step, ih, shares_concat, opens?_eq_classify, pending_frameOf,
      List.filterMap_append, List.map_append]
    congr 1
    cases Line.classify l.text with
    | feature name =>
      cases before.any NumberedLine.isFeature <;> rfl
    | examples name =>
      by_cases hk : latestKind? before = some .outline <;> simp [hk, scenarioShare]
    | scenario kind name =>
      by_cases hb : kind = .background <;> simp [scenarioShare, hb]
    | _ => rfl

/-! ## Reading a document -/

/-- The feature and each scenario carry, in order and as they are spelled, exactly the tags since
the last line before theirs that opens an element; a background carries none. The shares and what
waits at the end make up all tags of the document, so a tag reaches at most one element, and it
reaches none only in front of a background, in front of a table of examples, or after the last line
that opens an element. -/
theorem shares_read (text path : String) :
    (read text path).tags.map Tag.name = (shares (outsideLines text)).flatMap featureShare ∧
      (read text path).scenarios.map (fun sc => (sc.kind, sc.tags.map Tag.name)) =
        (shares (outsideLines text)).filterMap scenarioShare ∧
      (outsideLines text).flatMap NumberedLine.tokens =
        (shares (outsideLines text)).flatMap Prod.snd ++ waiting (outsideLines text) ∧
      ((shares (outsideLines text)).countP fun p => p.1 = .feature) ≤ 1 := by
  obtain ⟨-, htags, hscenarios⟩ := read_frame text path
  refine ⟨?_, ?_, flatMap_tokens_eq _, ?_⟩
  · rw [htags, tags_frameOf]
    refine map_name_named fun name hmem => ?_
    obtain ⟨p, hp, hkept⟩ := List.mem_flatMap.1 hmem
    exact signed_of_mem_shares hp (featureShare_subset p hkept)
  · have hmap := congrArg (List.map fun sc => (sc.kind, sc.tags)) hscenarios
    rw [scenarioTags_frameOf, List.map_map] at hmap
    have hkeep := congrArg (List.map fun p => (p.1, p.2.map Tag.name)) hmap
    rw [List.map_map, List.map_map] at hkeep
    refine hkeep.trans ((List.map_congr_left fun q hq => ?_).trans (List.map_id _))
    obtain ⟨p, hp, hkept⟩ := List.mem_filterMap.1 hq
    exact Prod.ext rfl (map_name_named fun name hmem =>
      signed_of_mem_shares hp (subset_of_scenarioShare hkept hmem))
  · rw [countP_feature_shares]
    split <;> simp

end FeatureAudit.Document
