import FeatureAudit.Proofs.Document.Session
import FeatureAudit.Proofs.Text.Lines

/-!
# Lines outside fenced blocks

`outside` finds the fenced blocks of a document by looking at fences alone. A session skips exactly
these blocks. This is stated for every view of a session that a single line outside the blocks
changes in a known way (`Projection`): reading a document changes the view by its lines outside the
blocks, one after the other (`Projection.view_feedAll`).
-/

set_option autoImplicit false

namespace FeatureAudit.Document

/-! ## Numbered lines -/

/-- A trimmed line and its number. -/
structure NumberedLine where
  /-- The number, counted from one. -/
  number : Nat
  /-- The characters without white space at the ends. -/
  text : List Char
  deriving DecidableEq, Repr

/-- The lines outside fenced blocks. A line that begins with a fence opens a block, the next line
that begins with the same fence ends it, and a block that is not ended runs to the last line. -/
def outside : Option Fence → Nat → List String → List NumberedLine
  | _, _, [] => []
  | none, number, raw :: ls =>
    let cs := Text.trimChars raw.toList
    match fence? cs with
    | some f => outside (some f) (number + 1) ls
    | none => ⟨number, cs⟩ :: outside none (number + 1) ls
  | some f, number, raw :: ls =>
    if f.opens (Text.trimChars raw.toList) then outside none (number + 1) ls
    else outside (some f) (number + 1) ls

/-- The lines of a text outside fenced blocks. -/
def outsideLines (text : String) : List NumberedLine := outside none 1 (Text.lines text)

/-- No line outside fenced blocks begins with a fence. -/
theorem fence?_of_mem_outside {fence : Option Fence} {number : Nat} {ls : List String}
    {l : NumberedLine} (h : l ∈ outside fence number ls) : fence? l.text = none := by
  fun_induction outside fence number ls with
  | case1 => simp at h
  | case2 number raw ls cs f _ ih => exact ih h
  | case3 number raw ls cs hopen ih =>
    rcases List.mem_cons.1 h with rfl | h
    · exact hopen
    · exact ih h
  | case4 number raw ls f _ ih => exact ih h
  | case5 number raw ls f _ ih => exact ih h

/-- Lines outside fenced blocks are trimmed. -/
theorem trimmed_of_mem_outside {fence : Option Fence} {number : Nat} {ls : List String}
    {l : NumberedLine} (h : l ∈ outside fence number ls) : Text.Trimmed l.text := by
  fun_induction outside fence number ls with
  | case1 => simp at h
  | case2 number raw ls cs f _ ih => exact ih h
  | case3 number raw ls cs _ ih =>
    rcases List.mem_cons.1 h with rfl | h
    · exact Text.trimmed_trimChars raw.toList
    · exact ih h
  | case4 number raw ls f _ ih => exact ih h
  | case5 number raw ls f _ ih => exact ih h

/-- Every line outside fenced blocks is a line of the document, trimmed. -/
theorem exists_of_mem_outside {fence : Option Fence} {number : Nat} {ls : List String}
    {l : NumberedLine} (h : l ∈ outside fence number ls) :
    ∃ raw ∈ ls, l.text = Text.trimChars raw.toList := by
  fun_induction outside fence number ls with
  | case1 => simp at h
  | case2 number raw ls cs f _ ih =>
    obtain ⟨m, hm, htext⟩ := ih h
    exact ⟨m, List.mem_cons_of_mem _ hm, htext⟩
  | case3 number raw ls cs _ ih =>
    rcases List.mem_cons.1 h with rfl | h
    · exact ⟨raw, List.mem_cons_self .., rfl⟩
    · obtain ⟨m, hm, htext⟩ := ih h
      exact ⟨m, List.mem_cons_of_mem _ hm, htext⟩
  | case4 number raw ls f _ ih =>
    obtain ⟨m, hm, htext⟩ := ih h
    exact ⟨m, List.mem_cons_of_mem _ hm, htext⟩
  | case5 number raw ls f _ ih =>
    obtain ⟨m, hm, htext⟩ := ih h
    exact ⟨m, List.mem_cons_of_mem _ hm, htext⟩

/-- Lines outside fenced blocks keep the numbers that they have in the document. -/
theorem number_outside_sublist (fence : Option Fence) (number : Nat) (ls : List String) :
    ((outside fence number ls).map NumberedLine.number).Sublist (List.range' number ls.length) := by
  fun_induction outside fence number ls with
  | case1 => exact List.nil_sublist _
  | case2 number raw ls cs f _ ih => exact ih.cons _
  | case3 number raw ls cs _ ih => exact ih.cons_cons _
  | case4 number raw ls f _ ih => exact ih.cons _
  | case5 number raw ls f _ ih => exact ih.cons _

/-! ## Views of a session -/

namespace Session

theorem content_fence (s : Session) (number : Nat) (text : String) (line : Line) :
    (s.content number text line).fence = line.fence?.or s.fence := by
  cases line with
  | step =>
    rw [content]
    split <;> simp [addStep, addText, Line.fence?]
  | feature name =>
    rw [content]
    split <;> simp [openFeature, addText, Line.fence?]
  | examples name =>
    rw [content]
    split <;> simp [openExamples, addText, Line.fence?]
  | _ => simp [content, Line.fence?, openScenario, addText]

/-- A line outside fenced blocks opens a block exactly if it begins with a fence. -/
theorem take_fence {s : Session} (h : s.fence = none) (number : Nat) (cs : List Char) :
    (s.take number cs).fence = fence? cs := by
  rw [fence?_eq_classify]
  cases hc : Line.classify cs with
  | blank => simp [take, hc, addGap_eq, h, Line.fence?]
  | comment => simp [take, hc, h, Line.fence?]
  | row => simp [take, hc, addRow_eq, h, Line.fence?]
  | _ => simp [take, hc, content_fence, h]

end Session

/-- A view of sessions that follows the lines outside fenced blocks, on sessions with an
invariant. -/
structure Projection (α : Type) where
  /-- What is seen of a session. -/
  view : Session → α
  /-- What a line outside fenced blocks changes. -/
  step : α → NumberedLine → α
  /-- What holds of every session on the way. -/
  Inv : Session → Prop
  inv_fence : ∀ {s : Session} (f : Option Fence), Inv s → Inv { s with fence := f }
  inv_take : ∀ {s : Session} (number : Nat) {cs : List Char}, Inv s → Text.Unbroken cs →
    Inv (s.take number cs)
  view_fence : ∀ (s : Session) (f : Option Fence), view { s with fence := f } = view s
  view_block : ∀ {s : Session} (number : Nat) {cs : List Char} {f : Fence}, Inv s →
    fence? cs = some f → view (s.take number cs) = view s
  view_take : ∀ {s : Session} (number : Nat) {cs : List Char}, Inv s → Text.Unbroken cs →
    fence? cs = none → view (s.take number cs) = step (view s) ⟨number, cs⟩

namespace Projection

variable {α : Type} (p : Projection α)

/-- Reading lines changes a view by the lines outside fenced blocks, and keeps its invariant. -/
theorem view_feedAll {s : Session} (hinv : p.Inv s) (number : Nat) {ls : List String}
    (hls : ∀ l ∈ ls, Text.Unbroken l.toList) :
    p.view (s.feedAll number ls) = (outside s.fence number ls).foldl p.step (p.view s) ∧
      p.Inv (s.feedAll number ls) := by
  induction ls generalizing s number with
  | nil =>
    rw [Session.feedAll, outside.eq_1, List.foldl_nil]
    exact ⟨rfl, hinv⟩
  | cons raw ls ih =>
    have hrest : ∀ l ∈ ls, Text.Unbroken l.toList := fun l hl => hls l (List.mem_cons_of_mem _ hl)
    have hraw : Text.Unbroken (Text.trimChars raw.toList) :=
      (hls raw (List.mem_cons_self ..)).subset (Text.trimChars_subset _)
    rw [Session.feedAll]
    cases hf : s.fence with
    | some f =>
      rw [Session.feed_of_fence_eq_some hf]
      obtain ⟨hview, hkeep⟩ := ih (p.inv_fence _ hinv) (number + 1) hrest
      refine ⟨?_, hkeep⟩
      rw [hview, p.view_fence, outside]
      split <;> rfl
    | none =>
      rw [Session.feed_of_fence_eq_none hf]
      obtain ⟨hview, hkeep⟩ := ih (p.inv_take number hinv hraw) (number + 1) hrest
      refine ⟨?_, hkeep⟩
      rw [hview, Session.take_fence hf, outside]
      cases hopen : fence? (Text.trimChars raw.toList) with
      | some f => simp only [p.view_block number hinv hopen]
      | none => simp only [p.view_take number hinv hraw hopen, List.foldl_cons]

/-- The view of a document that has been read. -/
theorem view_read (path : String) (hinv : p.Inv (Session.start path)) (text : String) :
    p.view ((Session.start path).feedAll 1 (Text.lines text)) =
        (outsideLines text).foldl p.step (p.view (Session.start path)) ∧
      p.Inv ((Session.start path).feedAll 1 (Text.lines text)) :=
  p.view_feedAll hinv 1 fun _ hl => Text.unbroken_of_mem_lines hl

end Projection

/-! ## Lines and what stands before them -/

section Context

variable {α : Type}

/-- The items of a list after `before`, each with all items before it. -/
def contextsAfter (before : List α) : List α → List (List α × α)
  | [] => []
  | a :: as => (before, a) :: contextsAfter (before ++ [a]) as

/-- The items of a list, each with the items before it. -/
def contexts (as : List α) : List (List α × α) := contextsAfter [] as

theorem map_snd_contextsAfter (before as : List α) :
    (contextsAfter before as).map Prod.snd = as := by
  induction as generalizing before with
  | nil => rfl
  | cons a as ih => rw [contextsAfter, List.map_cons, ih]

theorem contextsAfter_concat (before as : List α) (a : α) :
    contextsAfter before (as ++ [a]) = contextsAfter before as ++ [(before ++ as, a)] := by
  induction as generalizing before with
  | nil => simp [contextsAfter]
  | cons b as ih => simp [contextsAfter, ih]

theorem contexts_concat (as : List α) (a : α) : contexts (as ++ [a]) = contexts as ++ [(as, a)] :=
  contextsAfter_concat [] as a

end Context

end FeatureAudit.Document
