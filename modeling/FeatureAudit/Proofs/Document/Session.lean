import FeatureAudit.Document.Session
import FeatureAudit.Proofs.Document.Line

/-!
# What reading a line changes

`Session.take` is what a line outside fenced blocks does, and `Session.feed` is `take` apart from
the blocks. Every operation that a line leads to begins with closing the open table and giving the
collected free text to its owner; the equations of this file say what these two leave alone.
-/

set_option autoImplicit false

namespace FeatureAudit.Document.Session

/-! ## Lines outside fenced blocks -/

/-- Takes a trimmed line outside fenced blocks. -/
def take (s : Session) (number : Nat) (cs : List Char) : Session :=
  match Line.classify cs with
  | .blank => s.addGap
  | .comment => s
  | .row => s.addRow (String.ofList cs)
  | line => s.closeTable.content number (String.ofList cs) line

theorem feed_of_fence_eq_none {s : Session} (h : s.fence = none) (number : Nat) (raw : String) :
    s.feed number raw = s.take number (Text.trimChars raw.toList) := by
  simp only [feed, h]
  rfl

theorem feed_of_fence_eq_some {s : Session} {f : Fence} (h : s.fence = some f) (number : Nat)
    (raw : String) : s.feed number raw =
      { s with fence := if f.opens (Text.trimChars raw.toList) then none else some f } := by
  simp only [feed, h]
  split
  · rfl
  · rw [← h]

theorem feedAll_append (s : Session) (number : Nat) (ls ms : List String) :
    s.feedAll number (ls ++ ms) = (s.feedAll number ls).feedAll (number + ls.length) ms := by
  induction ls generalizing s number with
  | nil => rfl
  | cons l ls ih =>
    rw [List.cons_append, feedAll, ih, feedAll, List.length_cons, Nat.add_right_comm,
      Nat.add_assoc]

/-! ## Giving free text to its owner -/

/-- The collected free text as a paragraph. -/
def paragraph (s : Session) : String := Text.joinWith "\n" (dropGaps s.buffer)

/-- A description with a further paragraph, unless there is none. -/
def describe (description paragraph : String) : String :=
  if paragraph = "" then description else addParagraph description paragraph

/-- All that `flush` does: the buffer is emptied, and the description of its owner grows. -/
theorem flush_eq (s : Session) : s.flush =
    { s with
      buffer := []
      head := { s.head with
        description :=
          if s.phase.owner? = some .feature then describe s.head.description s.paragraph
          else s.head.description }
      scenario := s.scenario.map fun sc => { sc with
        description :=
          if s.phase.owner? = some .scenario then describe sc.description s.paragraph
          else sc.description } } := by
  unfold flush describe paragraph
  by_cases htext : Text.joinWith "\n" (dropGaps s.buffer) = ""
  · simp [htext]
  · cases howner : s.phase.owner? with
    | none => simp [htext, howner]
    | some o => cases o <;> simp [htext, howner]

@[simp] theorem flush_buffer (s : Session) : s.flush.buffer = [] := by rw [flush_eq]

@[simp] theorem flush_opened (s : Session) : s.flush.opened = s.opened := by rw [flush_eq]

@[simp] theorem flush_closed (s : Session) : s.flush.closed = s.closed := by rw [flush_eq]

@[simp] theorem flush_phase (s : Session) : s.flush.phase = s.phase := by rw [flush_eq]

@[simp] theorem flush_pending (s : Session) : s.flush.pending = s.pending := by rw [flush_eq]

@[simp] theorem flush_fence (s : Session) : s.flush.fence = s.fence := by rw [flush_eq]

@[simp] theorem flush_head_path (s : Session) : s.flush.head.path = s.head.path := by rw [flush_eq]

@[simp] theorem flush_head_metadata (s : Session) : s.flush.head.metadata = s.head.metadata := by
  rw [flush_eq]

@[simp] theorem flush_head_name (s : Session) : s.flush.head.name = s.head.name := by rw [flush_eq]

@[simp] theorem flush_head_tags (s : Session) : s.flush.head.tags = s.head.tags := by rw [flush_eq]

/-- A change of the description aside, the open scenario is the same. -/
theorem map_scenario_flush {α : Type} (g : Scenario → α)
    (hg : ∀ sc d, g { sc with description := d } = g sc) (s : Session) :
    s.flush.scenario.map g = s.scenario.map g := by
  rw [flush_eq, Option.map_map]
  congr 1
  funext sc
  exact hg sc _

/-! ## Closing a table -/

theorem closeTable_of_table?_eq_none {s : Session} (h : s.phase.table? = none) :
    s.closeTable = s := by
  simp [closeTable, h]

theorem closeTable_of_table?_eq_some {s : Session} {t : Example} (h : s.phase.table? = some t) :
    s.closeTable = { s with
      scenario := s.scenario.map fun sc => { sc with examples := sc.examples ++ [t] }
      phase := .scenarioBody
      buffer := [] } := by
  simp [closeTable, h, openScenario?]

@[simp] theorem closeTable_head (s : Session) : s.closeTable.head = s.head := by
  unfold closeTable
  split <;> rfl

@[simp] theorem closeTable_opened (s : Session) : s.closeTable.opened = s.opened := by
  unfold closeTable
  split <;> rfl

@[simp] theorem closeTable_closed (s : Session) : s.closeTable.closed = s.closed := by
  unfold closeTable
  split <;> rfl

@[simp] theorem closeTable_pending (s : Session) : s.closeTable.pending = s.pending := by
  unfold closeTable
  split <;> rfl

@[simp] theorem closeTable_fence (s : Session) : s.closeTable.fence = s.fence := by
  unfold closeTable
  split <;> rfl

/-- A change of the tables aside, the open scenario is the same. -/
theorem map_scenario_closeTable {α : Type} (g : Scenario → α)
    (hg : ∀ sc ts, g { sc with examples := ts } = g sc) (s : Session) :
    s.closeTable.scenario.map g = s.scenario.map g := by
  cases h : s.phase.table? with
  | none => rw [closeTable_of_table?_eq_none h]
  | some t =>
    rw [closeTable_of_table?_eq_some h, Option.map_map]
    congr 1
    funext sc
    exact hg sc _

/-- A table stays open only until a line that is neither a row nor passed over. -/
theorem closeTable_phase_table? (s : Session) : s.closeTable.phase.table? = none := by
  cases h : s.phase.table? with
  | none => rw [closeTable_of_table?_eq_none h, h]
  | some t => rw [closeTable_of_table?_eq_some h]; rfl

/-! ## Gaps and rows -/

/-- Lines with a gap after them, unless there is none to set apart. -/
def withGap (ls : List String) : List String :=
  if ls = [] ∨ ls.getLast? = some "" then ls else ls ++ [""]

theorem addGap_eq (s : Session) : s.addGap = { s with buffer := withGap s.buffer } := by
  unfold addGap withGap
  cases h : s.buffer.getLast? with
  | none => rw [if_pos (Or.inl (List.getLast?_eq_none_iff.1 h))]
  | some l =>
    have hne : s.buffer ≠ [] := by
      rintro hnil
      simp [hnil] at h
    by_cases hl : l = ""
    · simp [hl]
    · simp [hl, hne]

/-- The phase after a row of a table. -/
def rowPhase (line : String) : Phase → Phase
  | .examplesHeader name => .examplesRows ⟨name, (cells line).filter (· ≠ ""), []⟩
  | .examplesRows t =>
    .examplesRows { t with rows := t.rows ++ [fit t.headers.length (cells line)] }
  | phase => phase

theorem addRow_eq (s : Session) (line : String) :
    s.addRow line = { s with phase := rowPhase line s.phase } := by
  unfold addRow rowPhase
  split <;> simp_all

end FeatureAudit.Document.Session
