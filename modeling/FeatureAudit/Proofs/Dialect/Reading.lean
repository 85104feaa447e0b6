import FeatureAudit.Proofs.Dialect.Annotation
import FeatureAudit.Proofs.Dialect.Patterns
import FeatureAudit.Proofs.Step.Keyword

/-!
# A document in the dialect is read like any other

The dialect adds notes to a feature and changes nothing else, and it adds exactly the notes whose
pattern some line of the document matches (`read_annotates`).

* `signals_iff`: what the search through the lines finds, as membership in languages.
* `exists_bullet_of_mem_steps`: the dialect looks at the lines as they stand, the reader of documents
  at trimmed lines outside fenced blocks; yet every bullet step of a feature is a bullet on a line of
  its document, so a document with one is in the dialect.
-/

set_option autoImplicit false

namespace FeatureAudit.Dialect

open Text

/-! ## What lines show -/

/-- Lines with a placeholder for the shape of a response. -/
def schemaLine : Language Char := within (oneOf schemaMarkers)

/-- Lines with data in braces. -/
def dataLine : Language Char := within datum

/-- Lines with a step of a request. -/
def requestLine : Language Char :=
  starred (within methodPhrase + within statusPhrase + within (exactly "path") +
    within (exactly "url"))

/-- Lines with a step that matches a response. -/
def matchLine : Language Char := starred (within matchPhrase)

/-- Lines with a step that has a piece of script. -/
def scriptLine : Language Char :=
  starred (within functionPhrase + opening (exactly "def ") + within (exactly "assert "))

/-- Whether some line of a document is in a language. -/
def Shows (lines : List String) (L : Language Char) : Prop := ∃ l ∈ lines, l.toList ∈ L

/-- Whether lines are in the dialect: by a bullet step, a placeholder, or data in braces. -/
def InDialect (lines : List String) : Prop := Shows lines (bullet + schemaLine + dataLine)

/-- Whether a note holds of lines with scenarios. -/
def Note.Holds (lines : List String) (scenarios : List Scenario) : Note → Prop
  | .dialect => True
  | .requestSteps => Shows lines requestLine
  | .schemaAssertions => Shows lines schemaLine
  | .embeddedData => Shows lines dataLine
  | .responseMatching => Shows lines matchLine
  | .embeddedScript => Shows lines scriptLine
  | .apiOperations => ∃ sc ∈ scenarios, ∃ t ∈ apiTags, t.mentioned sc.tags = true

/-! ## Signals of a line -/

section Line

variable {line : List Char}

theorem schemaAssertions_ofLine :
    (Signals.ofLine line).schemaAssertions = true ↔ line ∈ schemaLine :=
  any_occurs_iff_mem_within

theorem embeddedData_ofLine : (Signals.ofLine line).embeddedData = true ↔ line ∈ dataLine :=
  someRest_iff_mem_within opensData_iff

theorem avoids_exactly_mul {c : Char} {s : String} (hs : s.toList.head? = some c)
    (hc : isBlank c = false) (L : Language Char) : Avoids isBlank (exactly s * L) :=
  (avoids_exactly hs hc).mul L

theorem requestSteps_ofLine (hline : '\n' ∉ line) :
    (Signals.ofLine line).requestSteps = true ↔ line ∈ requestLine := by
  have hsettled : Settled (within methodPhrase + within statusPhrase + within (exactly "path") +
      within (exactly "url")) :=
    (((settled_within (avoids_exactly_mul rfl (by decide) _)).add
      (settled_within (avoids_exactly_mul rfl (by decide) _))).add
      (settled_within (avoids_exactly rfl (by decide)))).add
      (settled_within (avoids_exactly rfl (by decide)))
  rw [requestLine, mem_starred_iff hsettled hline]
  simp only [Signals.ofLine, Option.any_eq_true, Bool.or_eq_true, Language.mem_add,
    someRest_iff_mem_within opensMethod_iff, someRest_iff_mem_within opensStatus_iff,
    occurs_iff_mem_within, Option.mem_def]

theorem responseMatching_ofLine (hline : '\n' ∉ line) :
    (Signals.ofLine line).responseMatching = true ↔ line ∈ matchLine := by
  have hsettled : Settled (within matchPhrase) :=
    settled_within (avoids_exactly_mul rfl (by decide) _)
  rw [matchLine, mem_starred_iff hsettled hline]
  simp only [Signals.ofLine, Option.any_eq_true, someRest_iff_mem_within opensMatch_iff,
    Option.mem_def]

theorem embeddedScript_ofLine (hline : '\n' ∉ line) :
    (Signals.ofLine line).embeddedScript = true ↔ line ∈ scriptLine := by
  have hsettled : Settled (within functionPhrase + opening (exactly "def ") +
      within (exactly "assert ")) :=
    ((settled_within (avoids_exactly_mul rfl (by decide) _)).add
      (settled_opening (avoids_exactly rfl (by decide)))).add
      (settled_within (avoids_exactly rfl (by decide)))
  rw [scriptLine, mem_starred_iff hsettled hline]
  simp only [Signals.ofLine, Option.any_eq_true, Bool.or_eq_true, Language.mem_add,
    someRest_iff_mem_within opensFunction_iff, mem_opening_exactly, List.isPrefixOf_iff_prefix,
    occurs_iff_mem_within, Option.mem_def]

end Line

/-! ## Signals of lines -/

section Lines

variable {lines : List String}

/-- A signal of lines is a search for a line of its language. -/
theorem shows_iff {signal : Signals → Bool} {L : Language Char} (hnone : signal .none = false)
    (hor : ∀ a b, signal (a.or b) = (signal a || signal b))
    (hline : ∀ l ∈ lines, signal (.ofLine l.toList) = true ↔ l.toList ∈ L) :
    signal (.ofLines lines) = true ↔ Shows lines L := by
  rw [Signals.any_ofLines hnone hor, List.any_eq_true]
  constructor
  · rintro ⟨l, hl, hsignal⟩
    exact ⟨l, hl, (hline l hl).1 hsignal⟩
  · rintro ⟨l, hl, hmem⟩
    exact ⟨l, hl, (hline l hl).2 hmem⟩

/-- The notes that the signals of lines lead to are those that hold of the lines. -/
theorem applies_iff_holds (hlines : ∀ l ∈ lines, '\n' ∉ l.toList) (f : Feature) (n : Note) :
    n.applies f (.ofLines lines) = true ↔ n.Holds lines f.scenarios := by
  cases n with
  | dialect => exact iff_of_true rfl trivial
  | requestSteps =>
    exact shows_iff rfl (fun _ _ => rfl) fun l hl => requestSteps_ofLine (hlines l hl)
  | schemaAssertions => exact shows_iff rfl (fun _ _ => rfl) fun _ _ => schemaAssertions_ofLine
  | embeddedData => exact shows_iff rfl (fun _ _ => rfl) fun _ _ => embeddedData_ofLine
  | responseMatching =>
    exact shows_iff rfl (fun _ _ => rfl) fun l hl => responseMatching_ofLine (hlines l hl)
  | embeddedScript =>
    exact shows_iff rfl (fun _ _ => rfl) fun l hl => embeddedScript_ofLine (hlines l hl)
  | apiOperations => simp [Note.applies, Note.Holds, hasApiTag]

theorem detected_iff_inDialect (hlines : ∀ l ∈ lines, '\n' ∉ l.toList) :
    (Signals.ofLines lines).detected = true ↔ InDialect lines := by
  refine shows_iff rfl (fun a b => ?_) fun l hl => ?_
  · simp only [Signals.detected, Signals.or]
    ac_rfl
  · simp only [Signals.detected, Bool.or_eq_true, Language.mem_add, schemaAssertions_ofLine,
      embeddedData_ofLine, ← isSome_starContent?_iff (hlines l hl)]
    rfl

end Lines

/-! ## Bullet steps of a feature -/

/-- A bullet step with more than its star is a bullet on a line of the document. -/
theorem exists_bullet_of_mem_steps {text path : String} {sc : Scenario}
    (hsc : sc ∈ (Document.read text path).scenarios) {step : String} (hstep : step ∈ sc.steps)
    (hstar : step.toList.head? = some '*') (hmore : step ≠ "*") :
    Shows (Text.lines text) bullet := by
  obtain ⟨l, hl, hisStep, rfl⟩ := Document.hasStep_of_mem_steps hsc hstep
  obtain ⟨raw, hraw, htext⟩ := Document.exists_of_mem_outside hl
  obtain ⟨start, stop, hstart, hsplit⟩ := exists_trimChars raw.toList
  obtain ⟨k, hk, rest, hrest, hends⟩ := Document.exists_of_isStep hisStep
  rw [String.toList_ofList] at hstar
  -- the star is the keyword of the step, so white space follows it
  have hkeywords : ∀ k ∈ Document.stepKeywords,
      k.toList ≠ [] ∧ (k.toList.head? = some '*' → k = "*") := by decide
  obtain ⟨hne, honly⟩ := hkeywords k hk
  rw [hrest, List.head?_append_of_ne_nil _ hne] at hstar
  obtain rfl : k = "*" := honly hstar
  cases rest with
  | nil => exact absurd (congrArg String.ofList hrest) (by simpa using hmore)
  | cons b content =>
    have hb : isBlank b = true := hends
    -- the step is trimmed, so it goes on after the white space
    have hcontent : content ≠ [] := by
      rintro rfl
      have hlast := (trimmed_iff.1 (Document.trimmed_of_mem_outside hl)).2 b (by simp [hrest])
      rw [hb] at hlast
      exact absurd hlast.symm Bool.false_ne_true
    refine ⟨raw, hraw, mem_starred.2 ⟨start, [b], content ++ stop, ?_, hstart, by simp, ?_, ?_⟩⟩
    · rw [hsplit, ← htext, hrest]
      simp
    · simpa using hb
    · exact List.append_ne_nil_of_left_ne_nil hcontent _

/-! ## Reading -/

/-- **The dialect only annotates.** A document in the dialect has the path, the name, the
description, the tags and the scenarios that it has without it. It has metadata only if a line is a
bullet step, has a placeholder or has data in braces; then it has exactly the notes that hold of its
lines and scenarios, each once. The signals of lists of lines that are put together are those of
either list, and a feature with a bullet step that is more than a star is in the dialect. -/
theorem read_annotates (text path : String) :
    let base := Document.read text path
    let f := read text path
    let lines := Text.lines text
    (f.path = base.path ∧ f.name = base.name ∧ f.description = base.description ∧
        f.tags = base.tags ∧ f.scenarios = base.scenarios) ∧
      (¬ InDialect lines → f.metadata = []) ∧
      (InDialect lines → (f.metadata.map Prod.fst).Nodup ∧ ∀ name v, (name, v) ∈ f.metadata ↔
        v = .flag true ∧ ∃ n : Note, n.name = name ∧ n.Holds lines base.scenarios) ∧
      (∀ xs ys, Signals.ofLines (xs ++ ys) = (Signals.ofLines xs).or (Signals.ofLines ys)) ∧
      ∀ sc ∈ base.scenarios, ∀ step ∈ sc.steps, step.toList.head? = some '*' → step ≠ "*" →
        (Note.dialect.name, .flag true) ∈ f.metadata := by
  intro base f lines
  have hlines : ∀ l ∈ lines, '\n' ∉ l.toList := fun l hl =>
    (unbroken_of_mem_lines hl).lineFeed_notMem
  have hmetadata : f.metadata =
      if (Signals.ofLines lines).detected then notes base (.ofLines lines) else [] :=
    metadata_annotate (Document.read_metadata text path) (.ofLines lines)
  have hdetected := detected_iff_inDialect hlines
  have hnotes : InDialect lines → ∀ name v, (name, v) ∈ f.metadata ↔
      v = .flag true ∧ ∃ n : Note, n.name = name ∧ n.Holds lines base.scenarios := by
    intro hin name v
    simp only [hmetadata, if_pos (hdetected.2 hin), mem_notes_iff, applies_iff_holds hlines]
  refine ⟨?_, ?_, fun hin => ⟨?_, hnotes hin⟩, Signals.ofLines_append, ?_⟩
  · exact annotate_content base (.ofLines lines)
  · intro hout
    rw [hmetadata, if_neg (mt hdetected.1 hout)]
  · rw [hmetadata, if_pos (hdetected.2 hin)]
    exact nodup_notes _ _
  · intro sc hsc step hstep hstar hmore
    obtain ⟨l, hl, hbullet⟩ := exists_bullet_of_mem_steps hsc hstep hstar hmore
    have hin : InDialect lines := ⟨l, hl, Or.inl (Or.inl hbullet)⟩
    exact (hnotes hin _ _).2 ⟨rfl, .dialect, rfl, trivial⟩

/-- A document that matches the response of a request. -/
def ping : String := "Scenario: ping\n\t* match id == '#number'\n"

/-- Its scenario. -/
def pingScenario : Scenario :=
  ⟨"ping", .scenario, 1, "", [], ["* match id == '#number'"], []⟩

theorem read_annotates_ping :
    InDialect (Text.lines ping) ∧
      pingScenario ∈ (Document.read ping "ping.feature").scenarios ∧
      (read ping "ping.feature").scenarios = (Document.read ping "ping.feature").scenarios ∧
      (read ping "ping.feature").metadata.map Prod.fst =
        ["dialect", "hasSchemaAssertions", "hasResponseMatching"] ∧
      ((read ping "ping.feature").metadata.map Prod.fst).Nodup ∧
      (Note.dialect.name, .flag true) ∈ (read ping "ping.feature").metadata ∧
      ¬ InDialect (Text.lines "Scenario: ping\n*") ∧
      (read "Scenario: ping\n*" "ping.feature").metadata = [] := by
  have hin : InDialect (Text.lines ping) :=
    (detected_iff_inDialect (by decide +kernel)).1 (by decide +kernel)
  have hscenario : pingScenario ∈ (Document.read ping "ping.feature").scenarios := by
    decide +kernel
  have hout : ¬ InDialect (Text.lines "Scenario: ping\n*") :=
    mt (detected_iff_inDialect (by decide +kernel)).2 (by decide +kernel)
  obtain ⟨⟨-, -, -, -, hsame⟩, -, hnotes, -, hbullet⟩ := read_annotates ping "ping.feature"
  exact ⟨hin, hscenario, hsame, by decide +kernel, (hnotes hin).1,
    hbullet pingScenario hscenario _ (List.mem_singleton_self _) rfl (by decide), hout,
    (read_annotates "Scenario: ping\n*" "ping.feature").2.1 hout⟩

end FeatureAudit.Dialect
