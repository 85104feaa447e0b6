import FeatureAudit.Proofs.Document.Canonical

/-!
# Printed features are read back

A session is settled by closing its table and giving the collected text to its owner
(`Session.settle`); this changes nothing of what it has read (`Session.finish_eq`). What the printed
lines of a step, of a table of examples and of a scenario do is said up to settling, one lemma for
each. Together they say that reading the lines that are printed for a canonical feature gives the
feature, with every scenario on the line of its keyword (`read_print`).
-/

set_option autoImplicit false

namespace FeatureAudit.Document

namespace Session

/-! ## Settled sessions -/

/-- Closes the table and gives the collected text to its owner. -/
def settle (s : Session) : Session := s.closeTable.flush

theorem flush_closeTable (s : Session) : s.closeTable.flush = s.settle := rfl

theorem flush_eq_self {s : Session} (h : s.buffer = []) : s.flush = s := by
  have hparagraph : s.paragraph = "" := by
    rw [paragraph, h]
    rfl
  rw [flush_eq, hparagraph]
  simp [describe, ← h]

theorem settle_eq_self {s : Session} (hbuffer : s.buffer = []) (htable : s.phase.table? = none) :
    s.settle = s := by
  rw [settle, closeTable_of_table?_eq_none htable, flush_eq_self hbuffer]

theorem openScenario?_closeTable (s : Session) : s.closeTable.openScenario? = s.openScenario? := by
  have hbody : Phase.scenarioBody.table? = none := rfl
  cases h : s.phase.table? with
  | none => rw [closeTable_of_table?_eq_none h]
  | some t =>
    rw [closeTable_of_table?_eq_some h]
    simp [openScenario?, h, hbody, Function.comp_def]

/-- A session ends with what it has read when it is settled. -/
theorem finish_eq (s : Session) : s.finish = s.settle.feature := by
  cases h : s.phase.table? with
  | none => rw [finish, settle, closeTable_of_table?_eq_none h]
  | some t =>
    have hnone : s.phase.owner? = none := by
      cases hp : s.phase <;> simp_all [Phase.table?, Phase.owner?]
    have hbuffer : s.closeTable.buffer = [] := by rw [closeTable_of_table?_eq_some h]
    rw [settle, flush_eq_self hbuffer, feature, openScenario?_closeTable, finish, flush_eq]
    simp [feature, openScenario?, hnone]

@[simp] theorem settle_buffer (s : Session) : s.settle.buffer = [] := by simp [settle]

@[simp] theorem settle_opened (s : Session) : s.settle.opened = s.opened := by simp [settle]

@[simp] theorem settle_pending (s : Session) : s.settle.pending = s.pending := by simp [settle]

@[simp] theorem settle_fence (s : Session) : s.settle.fence = s.fence := by simp [settle]

theorem settle_table? (s : Session) : s.settle.phase.table? = none := by
  rw [settle, flush_phase, closeTable_phase_table?]

/-- Tags that wait are not touched, and closing the table beforehand makes no difference. -/
theorem settle_closeTable_pending (s : Session) (tags : List Tag) :
    settle { s.closeTable with pending := tags } = { s.settle with pending := tags } := by
  have htable : ({ s.closeTable with pending := tags } : Session).phase.table? = none :=
    s.closeTable_phase_table?
  rw [settle, closeTable_of_table?_eq_none htable, settle, flush_eq, flush_eq]
  rfl

theorem isSome_scenario_settle (s : Session) :
    s.settle.scenario.isSome = s.closeTable.scenario.isSome := by
  rw [settle, flush_eq, Option.isSome_map]

theorem any_isOutline_settle (s : Session) :
    s.settle.scenario.any Scenario.isOutline = s.closeTable.scenario.any Scenario.isOutline := by
  rw [settle, flush_eq, Option.any_map]
  rfl

/-- The scenarios of a settled session. -/
theorem finish_scenarios (s : Session) :
    s.finish.scenarios = s.settle.closed ++ s.settle.scenario.toList := by
  rw [finish_eq, feature, openScenario?, settle_table?]
  simp

/-! ## Tag lines and keyword lines -/

/-- A tag line makes its tags wait. -/
theorem settle_feedAll_tagLines {s : Session} (hf : s.fence = none) {tags : List Tag}
    (h : ∀ t ∈ tags, IsTagName t.name) (number : Nat) :
    (s.feedAll number (tagLines tags)).settle = { s.settle with pending := s.pending ++ tags } := by
  by_cases hne : tags = []
  · rw [hne, List.append_nil, ← settle_pending]
    rfl
  · have hclass := classify_tagLine hne h
    have htags : (tags.map Tag.name).filterMap Tag.of? = tags := by
      rw [filterMap_of?_tagTokens? (Line.classify_eq_tags_iff.1 hclass), List.map_map]
      conv_rhs => rw [← List.map_id tags]
      exact List.map_congr_left fun t _ => Tag.named_name t
    have hlines : tagLines tags = [Text.joinWith " " (tags.map Tag.name)] := by
      simp [tagLines, hne]
    rw [hlines, feedAll, feedAll, feed_of_fence_eq_none hf, take, hclass]
    simp only [content, htags, closeTable_pending, settle_closeTable_pending]

/-- The session that goes on after the scenario opened last. -/
def next (s : Session) : Session := { s with closed := s.closed ++ s.scenario.toList }

/-- The settled session inside a scenario, with the head and the earlier scenarios of `s`. -/
def inside (s : Session) (sc : Scenario) : Session :=
  { s with scenario := some sc, phase := .scenarioBody, pending := [], buffer := [], fence := none }

theorem settle_inside (s : Session) (sc : Scenario) : (s.inside sc).settle = s.inside sc :=
  settle_eq_self rfl rfl

/-- The keyword line of a scenario ends what has been read before. -/
theorem feed_keyword {s : Session} (hf : s.fence = none) (number : Nat) {raw : String}
    {kind : ScenarioKind} {name : String}
    (h : scenarioHeadline? (Text.trimChars raw.toList) = some (kind, name)) :
    s.feed number raw = s.settle.next.inside
      ⟨name, kind, number, "", if kind = .background then [] else s.pending, [], []⟩ := by
  rw [feed_of_fence_eq_none hf, take, Line.classify_eq_scenario_iff.2 h]
  simp only [content, openScenario, flush_closeTable, settle_pending, settle_buffer, settle_fence,
    hf, next, inside]

theorem feed_scenarioLine {s : Session} (hf : s.fence = none) (kind : ScenarioKind) {name : String}
    (h : IsName name) (number : Nat) :
    s.feed number (keywordLine kind.name name) = s.settle.next.inside
      ⟨name, kind, number, "", if kind = .background then [] else s.pending, [], []⟩ :=
  feed_keyword hf number (Line.classify_eq_scenario_iff.1 (classify_scenarioLine kind h))

theorem feed_featureLine {s : Session} (hf : s.fence = none) (hopened : s.opened = false)
    {name : String} (h : IsName name) (hne : name ≠ "") (number : Nat) :
    s.feed number (keywordLine "Feature" name) =
      { s.settle with
        head := { s.settle.head with name := name, tags := s.settle.head.tags ++ s.pending }
        opened := true
        pending := []
        phase := .featureHeader } := by
  rw [feed_of_fence_eq_none hf, take, classify_featureLine h]
  simp [content, openFeature, flush_closeTable, hopened, hne]

/-! ## Descriptions -/

theorem feed_textLine {s : Session} (hf : s.fence = none) (htable : s.phase.table? = none)
    {l : List Char} (h : IsTextLine l) (number : Nat) :
    s.feed number (String.ofList l) = { s with buffer := s.buffer ++ [String.ofList l] } := by
  rw [feed_of_fence_eq_none hf, take, String.toList_ofList, h.trimmed, h.classify]
  simp only [closeTable_of_table?_eq_none htable]
  rfl

theorem feed_emptyLine {s : Session} (hf : s.fence = none) (number : Nat) :
    s.feed number "" = { s with buffer := withGap s.buffer } := by
  rw [feed_of_fence_eq_none hf, ← addGap_eq]
  rfl

/-- Lines of free text are collected as they stand. -/
theorem feedAll_textLines {s : Session} (hf : s.fence = none) (hbuffer : s.buffer = [])
    (htable : s.phase.table? = none) {t : List Char} (h : Paragraphs IsTextLine t) (number : Nat) :
    s.feedAll number (textLines t) = { s with buffer := textLines t } := by
  induction h with
  | line hl =>
    rw [textLines_eq_singleton hl.unbroken.lineFeed_notMem, feedAll, feedAll,
      feed_textLine hf htable hl, hbuffer, List.nil_append]
  | @next t l _ hl ih =>
    have hline := feed_textLine (s := { s with buffer := textLines t }) hf htable hl
    rw [textLines_next t hl.unbroken.lineFeed_notMem, feedAll_append, ih, feedAll, feedAll, hline]
  | @gap t l ht hl ih =>
    obtain ⟨ls, m, hlast, hm⟩ := exists_textLines_eq_concat ht
    have hgap : withGap (textLines t) = textLines t ++ [""] := by simp [withGap, hlast, hm]
    have hempty := feed_emptyLine (s := { s with buffer := textLines t }) hf
    have hline := feed_textLine (s := { s with buffer := textLines t ++ [""] }) hf htable hl
    rw [textLines_gap t hl.unbroken.lineFeed_notMem, feedAll_append, feedAll_append, ih, feedAll,
      feedAll, feedAll, feedAll, hempty]
    simp only [hgap]
    rw [hline]

theorem feedAll_descriptionLines {s : Session} (hf : s.fence = none) (hbuffer : s.buffer = [])
    (htable : s.phase.table? = none) {d : String} (h : IsFreeText d) (number : Nat) :
    s.feedAll number (descriptionLines d) = { s with buffer := descriptionLines d } := by
  by_cases hd : d = ""
  · have hlines : descriptionLines d = s.buffer := by rw [hd, hbuffer]; rfl
    rw [hlines, hbuffer, feedAll, ← hbuffer]
  · rw [descriptionLines_eq hd]
    exact feedAll_textLines hf hbuffer htable (h.resolve_left hd) number

theorem describe_empty (d : String) : describe "" d = d := by
  by_cases h : d = "" <;> simp [describe, addParagraph, h]

/-- Collected lines of a description are the description. -/
theorem paragraph_descriptionLines (s : Session) {d : String} (h : IsFreeText d) :
    paragraph { s with buffer := descriptionLines d } = d := by
  by_cases hd : d = ""
  · rw [hd]
    rfl
  · obtain ⟨ls, l, hlast, hl⟩ := exists_textLines_eq_concat (h.resolve_left hd)
    rw [paragraph, descriptionLines_eq hd, hlast, dropGaps_concat_line hl, ← hlast,
      joinWith_textLines, String.ofList_toList]

theorem settle_described (s : Session) {sc : Scenario} (hempty : sc.description = "") {d : String}
    (h : IsFreeText d) :
    settle { s.inside sc with buffer := descriptionLines d } =
      s.inside { sc with description := d } := by
  have htable : ({ s.inside sc with buffer := descriptionLines d } : Session).phase.table? = none :=
    rfl
  rw [settle, closeTable_of_table?_eq_none htable, flush_eq, paragraph_descriptionLines _ h]
  simp only [inside, Option.map_some, hempty, describe_empty]
  rfl

/-! ## Steps -/

/-- A step goes to the scenario in hand. -/
theorem settle_feed_step {s t : Session} {sc : Scenario} (h : s.settle = t.inside sc) {l : String}
    (hl : IsStepLine l) (number : Nat) :
    (s.feed number l).settle = t.inside { sc with steps := sc.steps ++ [l] } := by
  have hf : s.fence = none := by rw [← settle_fence, h]; rfl
  have hopen : s.closeTable.scenario.isSome = true := by
    rw [← isSome_scenario_settle, h]
    rfl
  rw [feed_of_fence_eq_none hf, take, hl.classify, hl.trimmed, String.ofList_toList]
  simp only [content, hopen, if_true, addStep, flush_closeTable, h]
  exact settle_inside t _

theorem settle_feedAll_steps {s t : Session} {sc : Scenario} (h : s.settle = t.inside sc)
    {ls : List String} (hls : ∀ l ∈ ls, IsStepLine l) (number : Nat) :
    (s.feedAll number ls).settle = t.inside { sc with steps := sc.steps ++ ls } := by
  induction ls generalizing s sc number with
  | nil => rw [feedAll, h, List.append_nil]
  | cons l ls ih =>
    have hstep := settle_feed_step h (hls l (List.mem_cons_self ..)) number
    rw [feedAll, ih hstep fun m hm => hls m (List.mem_cons_of_mem _ hm), List.append_assoc]
    rfl

/-! ## Tables of examples -/

theorem fit_eq_self (cells : List String) : fit cells.length cells = cells := by
  simp [fit]

/-- The session inside a table of a scenario. -/
def tabling (s : Session) (sc : Scenario) (table : Phase) : Session :=
  { s.inside sc with phase := table }

theorem settle_tabling (s : Session) (sc : Scenario) {phase : Phase} {e : Example}
    (h : phase.table? = some e) :
    (s.tabling sc phase).settle = s.inside { sc with examples := sc.examples ++ [e] } := by
  have htable : (s.tabling sc phase).phase.table? = some e := h
  rw [settle, closeTable_of_table?_eq_some htable, flush_eq_self rfl]
  rfl

theorem feed_row (s : Session) (sc : Scenario) (phase : Phase) {cs : List String} (hne : cs ≠ [])
    (number : Nat) :
    (s.tabling sc phase).feed number (writeRow cs) =
      s.tabling sc (rowPhase (writeRow cs) phase) := by
  have hf : (s.tabling sc phase).fence = none := rfl
  rw [feed_of_fence_eq_none hf, take, classify_writeRow hne,
    trimmed_of_isRow (isRow_writeRow hne), String.ofList_toList]
  simp only [addRow_eq]
  rfl

/-- Rows of the right width are added to the table. -/
theorem feedAll_rows (s : Session) (sc : Scenario) (name : String) {headers : List String}
    (hne : headers ≠ []) {rows : List (List String)}
    (hwidth : ∀ r ∈ rows, r.length = headers.length)
    (hcells : ∀ r ∈ rows, ∀ c ∈ r, IsCell c) (before : List (List String)) (number : Nat) :
    (s.tabling sc (.examplesRows ⟨name, headers, before⟩)).feedAll number (rows.map writeRow) =
      s.tabling sc (.examplesRows ⟨name, headers, before ++ rows⟩) := by
  induction rows generalizing before number with
  | nil => rw [List.map_nil, feedAll, List.append_nil]
  | cons r rows ih =>
    have hlen := hwidth r (List.mem_cons_self ..)
    have hr : r ≠ [] := by
      rintro rfl
      exact hne (List.length_eq_zero_iff.1 hlen.symm)
    have hread : cells (writeRow r) = r :=
      cells_writeRow_eq hr fun c hc => (hcells r (List.mem_cons_self ..) c hc).trimmed
    rw [List.map_cons, feedAll, feed_row s sc _ hr, rowPhase, hread, ← hlen, fit_eq_self,
      ih (fun q hq => hwidth q (List.mem_cons_of_mem _ hq))
        (fun q hq => hcells q (List.mem_cons_of_mem _ hq)),
      List.append_assoc, List.singleton_append]

/-- The lines of a table of examples add the table to the outline in hand. -/
theorem settle_feedAll_exampleLines {s t : Session} {sc : Scenario} (h : s.settle = t.inside sc)
    (hkind : sc.kind = .outline) {e : Example} (he : CanonicalExample e) (number : Nat) :
    (s.feedAll number (exampleLines e)).settle =
      t.inside { sc with examples := sc.examples ++ [e] } := by
  have hf : s.fence = none := by rw [← settle_fence, h]; rfl
  have houtline : s.closeTable.scenario.any Scenario.isOutline = true := by
    rw [← any_isOutline_settle, h]
    simp [inside, Scenario.isOutline, hkind]
  have hopen : s.feed number (keywordLine "Examples" e.name) =
      t.tabling sc (.examplesHeader e.name) := by
    rw [feed_of_fence_eq_none hf, take, classify_examplesLine he.name]
    simp only [content, houtline, if_true, openExamples, flush_closeTable, h]
    rfl
  rw [exampleLines, feedAll, hopen]
  obtain ⟨name, headers, rows⟩ := e
  rcases he.table with ⟨rfl, rfl⟩ | htable
  · exact settle_tabling t sc rfl
  · have hread : (cells (writeRow headers)).filter (· ≠ "") = headers := by
      rw [cells_writeRow_eq htable.ne_nil fun c hc => (htable.headerCells c hc).trimmed,
        List.filter_eq_self]
      simpa using htable.named
    rw [if_neg (by simpa using htable.ne_nil), feedAll, feed_row t sc _ htable.ne_nil, rowPhase,
      hread, feedAll_rows t sc name htable.ne_nil htable.width htable.rowCells, List.nil_append]
    exact settle_tabling t sc rfl

theorem settle_feedAll_examples {s t : Session} {sc : Scenario} (h : s.settle = t.inside sc)
    {es : List Example} (hkind : es ≠ [] → sc.kind = .outline)
    (hes : ∀ e ∈ es, CanonicalExample e) (number : Nat) :
    (s.feedAll number (es.flatMap exampleLines)).settle =
      t.inside { sc with examples := sc.examples ++ es } := by
  induction es generalizing s sc number with
  | nil => rw [List.flatMap_nil, feedAll, h, List.append_nil]
  | cons e es ih =>
    have houtline : sc.kind = .outline := hkind (List.cons_ne_nil e es)
    have htable := settle_feedAll_exampleLines h houtline (hes e (List.mem_cons_self ..)) number
    rw [List.flatMap_cons, feedAll_append,
      ih htable (fun _ => houtline) fun d hd => hes d (List.mem_cons_of_mem _ hd),
      List.append_assoc]
    rfl

/-! ## Scenarios -/

/-- A scenario of which only the heading is read, on its line. -/
def heading (sc : Scenario) (line : Int) : Scenario :=
  { sc with line := line, description := "", steps := [], examples := [] }

/-- The keyword line of a scenario with its tag line opens the scenario. -/
theorem feedAll_heading {s : Session} (hf : s.fence = none) (hp : s.pending = []) {sc : Scenario}
    (h : CanonicalScenario sc) (number : Nat) :
    s.feedAll number (tagLines sc.tags ++ [keywordLine sc.kind.name sc.name]) =
      s.settle.next.inside (heading sc (number + (tagLines sc.tags).length : Nat)) := by
  have htags := settle_feedAll_tagLines hf h.tags number
  rw [hp, List.nil_append] at htags
  rw [feedAll_append, feedAll, feedAll]
  generalize s.feedAll number (tagLines sc.tags) = u at htags
  have hfence : u.fence = none := by
    rw [← settle_fence, htags]
    exact s.settle_fence.trans hf
  have hpending : u.pending = sc.tags := by rw [← settle_pending, htags]
  have hkeep : (if sc.kind = .background then [] else sc.tags) = sc.tags := by
    split
    · rename_i hkind
      exact (h.background hkind).symm
    · rfl
  rw [feed_scenarioLine hfence sc.kind h.name, htags, hpending, hkeep]
  rfl

/-- The lines of a scenario add the scenario, on the line of its keyword. -/
theorem settle_feedAll_scenarioLines {s : Session} (hf : s.fence = none) (hp : s.pending = [])
    {sc : Scenario} (h : CanonicalScenario sc) (number : Nat) :
    (s.feedAll number (scenarioLines sc)).settle =
      s.settle.next.inside { sc with line := (number + (tagLines sc.tags).length : Nat) } := by
  rw [scenarioLines, feedAll_append, feedAll_append, feedAll_append, feedAll_heading hf hp h,
    feedAll_descriptionLines rfl rfl rfl h.description]
  -- from the heading on, what is settled grows by the description, the steps and the tables
  have hempty : (heading sc (number + (tagLines sc.tags).length : Nat)).description = "" := rfl
  have hdescribed := settle_described s.settle.next hempty h.description
  have hkind : sc.examples ≠ [] → sc.kind = .outline := fun hne =>
    by_contra fun hother => hne (h.outline hother)
  rw [settle_feedAll_examples (settle_feedAll_steps hdescribed h.steps _) hkind h.examples]
  rfl

end Session

/-! ## Features -/

/-- Scenarios on the lines that they are printed on from line `number` on: each has the number of
its keyword line. -/
def numbered : Nat → List Scenario → List Scenario
  | _, [] => []
  | number, sc :: scs =>
    { sc with line := (number + (tagLines sc.tags).length : Nat) } ::
      numbered (number + (scenarioLines sc).length) scs

/-- A feature as it is printed: its scenarios stand on the lines after its head, and there is no
metadata. -/
def printed (f : Feature) : Feature :=
  { f with
    scenarios := numbered ((print { f with scenarios := [] }).length + 1) f.scenarios
    metadata := [] }

/-- A numbered scenario stands on the line of its keyword, counted from one. -/
theorem exists_of_mem_numbered (before : List String) {scs : List Scenario} {sc : Scenario}
    (h : sc ∈ numbered (before.length + 1) scs) :
    ∃ i : Nat, sc.line = (i + 1 : Nat) ∧
      (before ++ scs.flatMap scenarioLines)[i]? = some (keywordLine sc.kind.name sc.name) := by
  induction scs generalizing before with
  | nil => simp [numbered] at h
  | cons d scs ih =>
    rcases List.mem_cons.1 h with rfl | h
    · refine ⟨before.length + (tagLines d.tags).length, by dsimp only; omega, ?_⟩
      rw [List.flatMap_cons, scenarioLines]
      simp
    · have hlen : before.length + 1 + (scenarioLines d).length =
          (before ++ scenarioLines d).length + 1 := by
        rw [List.length_append]
        omega
      rw [hlen] at h
      rw [List.flatMap_cons, ← List.append_assoc]
      exact ih _ h

namespace Session

/-- The lines of scenarios add the scenarios. -/
theorem finish_feedAll_scenarios {s : Session} (hf : s.fence = none) (hp : s.pending = [])
    {scs : List Scenario} (h : ∀ sc ∈ scs, CanonicalScenario sc) (number : Nat) :
    (s.feedAll number (scs.flatMap scenarioLines)).finish =
      { s.finish with scenarios := s.finish.scenarios ++ numbered number scs } := by
  induction scs generalizing s number with
  | nil => rw [List.flatMap_nil, feedAll, numbered, List.append_nil]
  | cons sc scs ih =>
    have hsettle := settle_feedAll_scenarioLines hf hp (h sc (List.mem_cons_self ..)) number
    rw [List.flatMap_cons, feedAll_append]
    -- of the session after the scenario only its settled form matters
    generalize s.feedAll number (scenarioLines sc) = u at hsettle
    have hfence : u.fence = none := by rw [← settle_fence, hsettle]; rfl
    have hpending : u.pending = [] := by rw [← settle_pending, hsettle]; rfl
    have hfinish : u.finish = { s.finish with
        scenarios := s.finish.scenarios ++
          [{ sc with line := (number + (tagLines sc.tags).length : Nat) }] } := by
      rw [finish_scenarios, finish_eq u, hsettle, finish_eq s]
      simp [feature, openScenario?, inside, next, Phase.table?]
    rw [ih hfence hpending (fun d hd => h d (List.mem_cons_of_mem _ hd)), hfinish, numbered]
    simp

/-- The head of a feature is read back. -/
theorem finish_feedAll_head {f : Feature} (h : CanonicalFeature f) :
    ∃ s, (start f.path).feedAll 1 (print { f with scenarios := [] }) = s ∧ s.fence = none ∧
      s.pending = [] ∧ s.finish = { f with scenarios := [], metadata := [] } := by
  have hsettle : (start f.path).settle = start f.path := settle_eq_self rfl rfl
  have htags := settle_feedAll_tagLines (s := start f.path) rfl h.tags 1
  rw [hsettle] at htags
  rw [print, List.flatMap_nil, List.append_nil, feedAll_append, feedAll_append, feedAll, feedAll]
  generalize (start f.path).feedAll 1 (tagLines f.tags) = u at htags
  have hfence : u.fence = none := by rw [← settle_fence, htags]; rfl
  have hopened : u.opened = false := by rw [← settle_opened, htags]; rfl
  have hpending : u.pending = f.tags := by rw [← settle_pending, htags]; rfl
  rw [feed_featureLine hfence hopened h.name h.named, htags, hpending,
    feedAll_descriptionLines rfl rfl rfl h.description]
  refine ⟨_, rfl, rfl, rfl, ?_⟩
  rw [finish, flush_eq, paragraph_descriptionLines _ h.description]
  simp [feature, openScenario?, start, Phase.owner?, Feature.blank, describe_empty]

end Session

/-! ## The round trip -/

theorem print_eq (f : Feature) :
    print f = print { f with scenarios := [] } ++ f.scenarios.flatMap scenarioLines := by
  simp [print]

/-- The lines that are printed for a canonical feature are read as the feature. -/
theorem readLines_print_eq {f : Feature} (h : CanonicalFeature f) :
    readLines f.path (print f) = printed f := by
  obtain ⟨s, hread, hf, hp, hfinish⟩ := Session.finish_feedAll_head h
  rw [readLines, print_eq, Session.feedAll_append, hread,
    Session.finish_feedAll_scenarios hf hp h.scenarios, hfinish, Nat.add_comm 1]
  rfl

/-- A canonical feature is read back from its printed lines, with line feeds between them or one
after each, as it is: with its name, tags and description, and with all its scenarios in order, each
of them complete and on the line of its keyword. -/
theorem read_print {f : Feature} (h : CanonicalFeature f) :
    read (Text.joinWith "\n" (print f)) f.path = printed f ∧
      read (String.join ((print f).map (· ++ "\n"))) f.path = printed f ∧
      ∀ sc ∈ (printed f).scenarios, ∃ i : Nat, sc.line = (i + 1 : Nat) ∧
        (print f)[i]? = some (keywordLine sc.kind.name sc.name) := by
  have hlines := isLines_print h
  refine ⟨?_, ?_, fun sc hsc => ?_⟩
  · rw [read, Text.lines_joinWith hlines, readLines_print_eq h]
  · rw [read, Text.lines_terminated hlines.unbroken, readLines_print_eq h]
  · rw [print_eq]
    exact exists_of_mem_numbered _ hsc

/-- A feature with everything that a document can hold. -/
def checkout : Feature where
  path := "shop/checkout.feature"
  name := "Checkout"
  description := "Customers pay for what\nthey have chosen.\n\nPrices include tax."
  tags := [.named "@shop", .named "@Checkout#2"]
  scenarios := [
    ⟨"", .background, 0, "", [], ["Given a customer"], []⟩,
    ⟨"Empty basket", .scenario, 0, "Nothing is\n\nto be paid.", [.named "@smoke"],
      ["* nothing is chosen", "When the customer pays", "Then"], []⟩,
    ⟨"Discounts", .outline, 0, "", [], ["Then the price is <price>"],
      [⟨"", [], []⟩, ⟨"by code", ["code", "price"], [["A|B", "1\n2"], ["\\n", ""]]⟩]⟩,
    ⟨"Refunds", .rule, 0, "", [.named "@slow", .named "@P1"], [], []⟩]
  metadata := []

theorem canonicalFeature_checkout : CanonicalFeature checkout where
  named := by decide
  name := by decide
  tags := by decide
  description := by
    have hfirst : IsTextLine "Customers pay for what".toList := by decide
    have hsecond : IsTextLine "they have chosen.".toList := by decide
    have hthird : IsTextLine "Prices include tax.".toList := by decide
    exact Or.inr (((Paragraphs.line hfirst).next hsecond).gap hthird)
  scenarios := by
    have hfirst : IsTextLine "Nothing is".toList := by decide
    have hsecond : IsTextLine "to be paid.".toList := by decide
    simp only [checkout, List.forall_mem_cons, List.not_mem_nil, false_imp_iff, implies_true,
      and_true]
    refine ⟨?_, ?_, ?_, ?_⟩
    · exact ⟨by decide, by decide, by decide, Or.inl rfl, by decide, by decide, by decide⟩
    · exact ⟨by decide, by decide, by decide, Or.inr ((Paragraphs.line hfirst).gap hsecond),
        by decide, by decide, by decide⟩
    · exact ⟨by decide, by decide, by decide, Or.inl rfl, by decide, by decide, by decide⟩
    · exact ⟨by decide, by decide, by decide, Or.inl rfl, by decide, by decide, by decide⟩

theorem read_print_checkout :
    CanonicalFeature checkout ∧
      read (Text.joinWith "\n" (print checkout)) checkout.path = printed checkout ∧
      (printed checkout).scenarios.map Scenario.line = [7, 10, 17, 25] :=
  ⟨canonicalFeature_checkout, (read_print canonicalFeature_checkout).1, by decide⟩

end FeatureAudit.Document
