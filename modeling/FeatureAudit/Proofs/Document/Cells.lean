import FeatureAudit.Document.Cells
import FeatureAudit.Proofs.Text.Blank
import FeatureAudit.Proofs.Text.Lines

/-!
# Table rows are read back

Every character of a cell is written in a form that reads as this character, whatever follows
(`rawCells_escapeCellChar`), and a bar that is not escaped ends the cell. A written row therefore
reads as its cells, trimmed (`cells_writeRow`), and it is a row on a line of its own. Other cells have
another row (`cells_joinedRow`).
-/

set_option autoImplicit false

namespace FeatureAudit.Document

/-! ## Cells -/

theorem rawCells_cons {c : Char} (hslash : c ≠ '\\') (hbar : c ≠ bar) (cs : List Char) :
    rawCells (c :: cs) = consCell c (rawCells cs) := by
  rw [rawCells.eq_4 c cs (fun h _ => hslash h) (fun _ _ h _ => hslash h), if_neg hbar]

theorem rawCells_bar (cs : List Char) : rawCells (bar :: cs) = [] :: rawCells cs := by
  rw [rawCells.eq_4 bar cs (fun h _ => absurd h (by decide))
    (fun _ _ h _ => absurd h (by decide)), if_pos rfl]

/-- The characters that are escaped in a cell. -/
def escaped : List Char := ['\\', bar, '\n']

theorem escapeCellChar_eq_singleton {c : Char} (h : c ∉ escaped) : escapeCellChar c = [c] := by
  simp only [escaped, List.mem_cons, List.not_mem_nil, or_false, not_or] at h
  rw [escapeCellChar, if_neg h.1, if_neg h.2.1, if_neg h.2.2]

/-- A written character is read back, whatever follows. -/
theorem rawCells_escapeCellChar (c : Char) (rest : List Char) :
    rawCells (escapeCellChar c ++ rest) = consCell c (rawCells rest) := by
  by_cases h : c ∈ escaped
  · simp only [escaped, List.mem_cons, List.not_mem_nil, or_false] at h
    rcases h with rfl | rfl | rfl <;> rfl
  · rw [escapeCellChar_eq_singleton h]
    refine rawCells_cons ?_ ?_ rest
    · rintro rfl
      exact h (by decide)
    · rintro rfl
      exact h (by decide)

theorem rawCells_flatMap_escapeCellChar {rest cell : List Char} {cells : List (List Char)}
    (h : rawCells rest = cell :: cells) (cs : List Char) :
    rawCells (cs.flatMap escapeCellChar ++ rest) = (cs ++ cell) :: cells := by
  induction cs with
  | nil => exact h
  | cons c cs ih => rw [List.flatMap_cons, List.append_assoc, rawCells_escapeCellChar, ih]; rfl

/-- The written form of a cell and what follows it. -/
theorem rawCells_padded {rest cell : List Char} {cells : List (List Char)}
    (h : rawCells (' ' :: rest) = cell :: cells) (s : String) :
    rawCells ([' '] ++ escapeCell s ++ ' ' :: rest) = (' ' :: (s.toList ++ cell)) :: cells := by
  rw [List.append_assoc, List.singleton_append, rawCells_cons (by decide) (by decide), escapeCell,
    rawCells_flatMap_escapeCellChar h]
  rfl

/-! ## Rows -/

theorem writeCells_ne_nil {cs : List String} (h : cs ≠ []) : writeCells cs ≠ [] := by
  cases cs with
  | nil => exact absurd rfl h
  | cons c cs => simp [writeCells]

/-- Written cells end with a bar. -/
theorem getLast?_writeCells {cs : List String} (h : cs ≠ []) :
    (writeCells cs).getLast? = some bar := by
  induction cs with
  | nil => exact absurd rfl h
  | cons c cs ih =>
    rw [writeCells]
    cases cs with
    | nil => rw [writeCells, List.append_nil, List.getLast?_append_of_ne_nil _ (by simp)]; rfl
    | cons d ds =>
      rw [List.getLast?_append_of_ne_nil _ (writeCells_ne_nil (List.cons_ne_nil d ds))]
      exact ih (List.cons_ne_nil d ds)

/-- Without the bar at their end, written cells are read back with a space on either side. -/
theorem rawCells_dropLast_writeCells {cs : List String} (h : cs ≠ []) :
    rawCells (writeCells cs).dropLast = cs.map fun c => ' ' :: (c.toList ++ [' ']) := by
  induction cs with
  | nil => exact absurd rfl h
  | cons c cs ih =>
    cases cs with
    | nil =>
      have hbody : (writeCells [c]).dropLast = [' '] ++ escapeCell c ++ ' ' :: [] := by
        rw [writeCells, writeCells, List.append_nil,
          List.dropLast_append_of_ne_nil (List.cons_ne_nil _ _)]
        rfl
      have hend : rawCells [' '] = [[' ']] := rfl
      rw [hbody, rawCells_padded hend]
      rfl
    | cons d ds =>
      have hne : writeCells (d :: ds) ≠ [] := writeCells_ne_nil (List.cons_ne_nil d ds)
      have hbody : (writeCells (c :: d :: ds)).dropLast =
          [' '] ++ escapeCell c ++ ' ' :: (bar :: (writeCells (d :: ds)).dropLast) := by
        rw [writeCells.eq_2 c, List.dropLast_append_of_ne_nil hne, List.append_assoc]
        rfl
      have hnext : rawCells (' ' :: bar :: (writeCells (d :: ds)).dropLast) =
          [' '] :: (d :: ds).map fun c => ' ' :: (c.toList ++ [' ']) := by
        rw [rawCells_cons (by decide) (by decide), rawCells_bar, ih (List.cons_ne_nil d ds)]
        rfl
      rw [hbody, rawCells_padded hnext]
      rfl

theorem isRow_writeRow {cs : List String} (h : cs ≠ []) : isRow (writeRow cs).toList = true := by
  have hlast := getLast?_writeCells h
  obtain ⟨c, ds, hwrite⟩ := List.exists_cons_of_ne_nil (writeCells_ne_nil h)
  rw [hwrite] at hlast
  rw [isRow, writeRow, String.toList_ofList, hwrite, List.getLast?_cons_cons, hlast]
  simp

theorem trimmed_of_isRow {cs : List Char} (h : isRow cs = true) : Text.Trimmed cs := by
  have hbar : Text.isBlank bar = false := by decide
  simp only [isRow, Bool.and_eq_true, beq_iff_eq] at h
  rw [Text.trimmed_iff, h.1.2, h.2]
  simp [hbar]

/-- A row of any cells reads as the trimmed cells. -/
theorem cells_writeRow {cs : List String} (h : cs ≠ []) :
    cells (writeRow cs) = cs.map Text.trim := by
  have hbody : rowBody (writeRow cs).toList = (writeCells cs).dropLast := by
    rw [rowBody, isRow_writeRow h, if_pos rfl, writeRow, String.toList_ofList]
    rfl
  rw [cells, hbody, rawCells_dropLast_writeCells h, List.map_map]
  refine List.map_congr_left fun c _ => ?_
  rw [Function.comp_apply, Text.trimChars_cons_blank (by decide),
    Text.trimChars_concat_blank (by decide), Text.trim]

/-- Trimmed cells are read back from their row. -/
theorem cells_writeRow_eq {cs : List String} (hne : cs ≠ [])
    (h : ∀ c ∈ cs, Text.Trimmed c.toList) : cells (writeRow cs) = cs := by
  rw [cells_writeRow hne]
  refine (List.map_congr_left fun c hc => ?_).trans (List.map_id cs)
  rw [Text.trim, h c hc, String.ofList_toList, id]

/-- Cells with the same row are the same, trimmed or not. -/
theorem writeRow_inj {cs ds : List String} (hcs : cs ≠ []) (hds : ds ≠ [])
    (h : writeRow cs = writeRow ds) : cs = ds := by
  have hcells : writeCells cs = writeCells ds := List.cons_injective (String.ofList_injective h)
  have hraw := rawCells_dropLast_writeCells hcs
  rw [hcells, rawCells_dropLast_writeCells hds] at hraw
  refine (List.map_injective_iff.2 fun c d hcd => ?_) hraw.symm
  exact String.toList_inj.1 (List.append_cancel_right (List.cons_injective hcd))

/-! ## Joined cells -/

/-- Escaped cells joined by bars, each bar between spaces, and bars at both ends. -/
def joinedRow (cs : List String) : String :=
  "| " ++ Text.joinWith " | " (cs.map fun c => String.ofList (escapeCell c)) ++ " |"

theorem joinedRow_eq {cs : List String} (h : cs ≠ []) : joinedRow cs = writeRow cs := by
  have hcells : ' ' :: ([' ', bar, ' '].intercalate (cs.map escapeCell) ++ [' ', bar]) =
      writeCells cs := by
    induction cs with
    | nil => exact absurd rfl h
    | cons c cs ih =>
      cases cs with
      | nil => simp [writeCells]
      | cons d ds =>
        rw [writeCells, ← ih (List.cons_ne_nil d ds)]
        simp [List.intercalate_cons_cons]
  rw [← String.toList_inj, writeRow, String.toList_ofList, ← hcells, joinedRow,
    String.toList_append, String.toList_append, Text.toList_joinWith, List.map_map]
  simp [Function.comp_def, bar]

/-- **Rows hold any cells.** Trimmed cells are read back from the row of the escaped cells, whatever
characters they consist of. Whether they are trimmed or not, the row has as many cells, and no other
cells have this row. -/
theorem cells_joinedRow {cs : List String} (hne : cs ≠ []) :
    ((∀ c ∈ cs, Text.trim c = c) → cells (joinedRow cs) = cs) ∧
      (cells (joinedRow cs)).length = cs.length ∧
      ∀ ds, ds ≠ [] → joinedRow cs = joinedRow ds → cs = ds := by
  rw [joinedRow_eq hne, cells_writeRow hne]
  refine ⟨fun htrim => ?_, List.length_map .., fun ds hds h => ?_⟩
  · exact (List.map_congr_left htrim).trans (List.map_id cs)
  · rw [joinedRow_eq hds] at h
    exact writeRow_inj hne hds h

/-- Cells made of what a row has a meaning for: bars, backslashes in front of them, line feeds. -/
def marks : List String := ["\\|", "", "a\\", "x\n|\\n"]

theorem cells_joinedRow_marks :
    marks ≠ [] ∧ (∀ c ∈ marks, Text.trim c = c) ∧
      joinedRow marks = "| \\\\\\| |  | a\\\\ | x\\n\\|\\\\n |" ∧
      cells (joinedRow marks) = marks ∧ (cells (joinedRow marks)).length = 4 ∧
      ∀ ds, ds ≠ [] → joinedRow marks = joinedRow ds → marks = ds := by
  have hne : marks ≠ [] := List.cons_ne_nil _ _
  have htrim : ∀ c ∈ marks, Text.trim c = c := by decide
  obtain ⟨hread, hlength, hinj⟩ := cells_joinedRow hne
  exact ⟨hne, htrim, by decide, hread htrim, hlength, hinj⟩

/-! ## Rows are lines -/

theorem unbroken_escapeCellChar {c : Char} (h : Text.isBreak c = true → c = '\n') :
    Text.Unbroken (escapeCellChar c) := by
  by_cases hc : c ∈ escaped
  · have hall : ∀ d ∈ escaped, Text.Unbroken (escapeCellChar d) := by decide
    exact hall c hc
  · rw [escapeCellChar_eq_singleton hc]
    intro d hd
    rw [List.mem_singleton.1 hd, Bool.eq_false_iff]
    intro hbreak
    exact hc (by rw [h hbreak]; decide)

/-- A row whose cells hold no line break but line feeds holds none at all. -/
theorem unbroken_writeRow {cs : List String}
    (h : ∀ s ∈ cs, ∀ c ∈ s.toList, Text.isBreak c = true → c = '\n') :
    Text.Unbroken (writeRow cs).toList := by
  have hcells : Text.Unbroken (writeCells cs) := by
    induction cs with
    | nil => exact fun c hc => absurd hc (List.not_mem_nil)
    | cons s cs ih =>
      have hs : Text.Unbroken (escapeCell s) := by
        intro c hc
        obtain ⟨d, hd, hcd⟩ := List.mem_flatMap.1 hc
        exact unbroken_escapeCellChar (h s (List.mem_cons_self ..) d hd) c hcd
      rw [writeCells]
      simp only [Text.unbroken_append]
      exact ⟨⟨⟨by decide, hs⟩, by decide⟩, ih fun t ht => h t (List.mem_cons_of_mem _ ht)⟩
  rw [writeRow, String.toList_ofList, ← List.singleton_append, Text.unbroken_append]
  exact ⟨by decide, hcells⟩

end FeatureAudit.Document
