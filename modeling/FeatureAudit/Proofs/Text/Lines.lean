import Mathlib.Algebra.Ring.Nat
import FeatureAudit.Text.Blank
import FeatureAudit.Text.Lines
import FeatureAudit.Text.Search

/-!
# Lines and the texts made of them

No line of a text holds a line break (`unbroken_of_mem_linesOf`), and lines without breaks are read
back from the texts that are written with them: the break after a line may be a line feed, a carriage
return or both, and the last line may go without one (`LineEnd.hasLines_of_mem_texts`). With line
feeds between lines (`lines_joinWith`) the last one must not be empty, with one after each
(`lines_terminated`) it may be.
-/

set_option autoImplicit false

namespace FeatureAudit.Text

/-! ## Line breaks -/

/-- No character ends a line. -/
def Unbroken (cs : List Char) : Prop := ∀ c ∈ cs, isBreak c = false

instance (cs : List Char) : Decidable (Unbroken cs) :=
  inferInstanceAs (Decidable (∀ c ∈ cs, isBreak c = false))

theorem Unbroken.lineFeed_notMem {cs : List Char} (h : Unbroken cs) : '\n' ∉ cs := fun hmem =>
  absurd (h '\n' hmem) (by decide)

theorem Unbroken.subset {cs ds : List Char} (h : Unbroken ds) (hsub : cs ⊆ ds) : Unbroken cs :=
  fun c hc => h c (hsub hc)

theorem unbroken_append {cs ds : List Char} :
    Unbroken (cs ++ ds) ↔ Unbroken cs ∧ Unbroken ds := by
  simp only [Unbroken, List.mem_append, or_imp, forall_and]

/-- Every line break is white space. -/
theorem isBlank_of_isBreak {c : Char} (h : isBreak c = true) : isBlank c = true := by
  simp only [isBreak, isBlank, Bool.or_eq_true, Bool.and_eq_true, decide_eq_true_eq,
    beq_iff_eq] at h ⊢
  omega

/-- A word holds no line break. -/
theorem unbroken_of_word {w : List Char} (h : ∀ c ∈ w, isBlank c = false) : Unbroken w := by
  intro c hc
  rw [Bool.eq_false_iff]
  intro hbreak
  exact absurd (isBlank_of_isBreak hbreak) (by simp [h c hc])

theorem unbroken_intercalate {sep : List Char} (hsep : Unbroken sep) {ls : List (List Char)}
    (h : ∀ l ∈ ls, Unbroken l) : Unbroken (sep.intercalate ls) := by
  induction ls with
  | nil => exact fun c hc => absurd hc (List.not_mem_nil)
  | cons l ls ih =>
    have hl := h l (List.mem_cons_self ..)
    cases ls with
    | nil => rwa [List.intercalate_singleton]
    | cons m ls =>
      rw [List.intercalate_cons_cons, unbroken_append, unbroken_append]
      exact ⟨⟨hl, hsep⟩, ih fun k hk => h k (List.mem_cons_of_mem _ hk)⟩

theorem mem_consLine {c : Char} {ls : List (List Char)} {l : List Char}
    (h : l ∈ consLine c ls) : (∃ m, (m = [] ∨ m ∈ ls) ∧ l = c :: m) ∨ l ∈ ls := by
  cases ls with
  | nil => exact Or.inl ⟨[], Or.inl rfl, by simpa [consLine] using h⟩
  | cons m ls =>
    rcases List.mem_cons.1 h with rfl | h
    · exact Or.inl ⟨m, Or.inr (List.mem_cons_self ..), rfl⟩
    · exact Or.inr (List.mem_cons_of_mem _ h)

/-- No line holds a line break. -/
theorem unbroken_of_mem_linesOf {cs l : List Char} (h : l ∈ linesOf cs) : Unbroken l := by
  fun_induction linesOf cs generalizing l with
  | case1 => simp at h
  | case2 cs ih =>
    rcases List.mem_cons.1 h with rfl | h
    · exact fun c hc => absurd hc (List.not_mem_nil)
    · exact ih h
  | case3 c cs _ hc ih =>
    rcases List.mem_cons.1 h with rfl | h
    · exact fun c hc => absurd hc (List.not_mem_nil)
    · exact ih h
  | case4 c cs _ hc ih =>
    rcases mem_consLine h with ⟨m, hm, rfl⟩ | h
    · intro d hd
      rcases List.mem_cons.1 hd with rfl | hd
      · simpa using hc
      · rcases hm with rfl | hm
        · exact absurd hd (List.not_mem_nil)
        · exact ih hm d hd
    · exact ih h

theorem unbroken_of_mem_lines {s l : String} (h : l ∈ lines s) : Unbroken l.toList := by
  obtain ⟨cs, hcs, rfl⟩ := List.mem_map.1 h
  rw [String.toList_ofList]
  exact unbroken_of_mem_linesOf hcs

/-! ## Texts of given lines -/

theorem linesOf_cons {c : Char} {cs : List Char} (hc : isBreak c = false) :
    linesOf (c :: cs) = consLine c (linesOf cs) := by
  have hr : c ≠ '\r' := by
    rintro rfl
    exact absurd hc (by decide)
  rw [linesOf.eq_3 c cs (fun _ h _ => hr h), if_neg (by simp [hc])]

theorem linesOf_eq_singleton {l : List Char} (hl : Unbroken l) (hne : l ≠ []) :
    linesOf l = [l] := by
  induction l with
  | nil => exact absurd rfl hne
  | cons c l ih =>
    rw [linesOf_cons (hl c (List.mem_cons_self ..))]
    cases l with
    | nil => rfl
    | cons d l =>
      rw [ih (hl.subset (List.subset_cons_self c _)) (List.cons_ne_nil d l), consLine]

theorem toList_joinWith (sep : String) (ss : List String) :
    (joinWith sep ss).toList = sep.toList.intercalate (ss.map String.toList) := by
  cases ss with
  | nil => rfl
  | cons s ss =>
    rw [joinWith]
    induction ss generalizing s with
    | nil => simp
    | cons t ss ih =>
      rw [List.foldl_cons, ih]
      cases ss with
      | nil => simp [List.intercalate_cons_cons]
      | cons u ss => simp [List.intercalate_cons_cons]

theorem utf8ByteSize_joinWith_cons (sep s : String) (ss : List String) :
    (joinWith sep (s :: ss)).utf8ByteSize =
      s.utf8ByteSize + (ss.map fun t => t.utf8ByteSize + sep.utf8ByteSize).sum := by
  rw [joinWith]
  induction ss generalizing s with
  | nil => simp
  | cons t ss ih =>
    rw [List.foldl_cons, ih, List.map_cons, List.sum_cons, String.utf8ByteSize_append,
      String.utf8ByteSize_append]
    omega

/-! ## Ends of lines -/

/-- A text has lines if it is cut into them. An empty line at the very end, without a break of its
own, leaves no trace in the text and is not seen. -/
def HasLines (text : String) (ls : List String) : Prop := lines text = ls ∨ lines text ++ [""] = ls

instance (text : String) (ls : List String) : Decidable (HasLines text ls) :=
  inferInstanceAs (Decidable (_ ∨ _))

/-- The usual ways to end the lines of a text. -/
inductive LineEnd where
  /-- A line feed. -/
  | lineFeed
  /-- A carriage return and a line feed. -/
  | both
  /-- A carriage return. -/
  | carriageReturn
  deriving DecidableEq, Repr

namespace LineEnd

/-- The characters at the end of a line. -/
def mark : LineEnd → String
  | .lineFeed => "\n"
  | .both => "\r\n"
  | .carriageReturn => "\r"

/-- Whether the end of a line can be told from what stands behind it: a carriage return and a line
feed after it would be one break. -/
def Parts (e : LineEnd) (rest : List Char) : Prop :=
  e = .carriageReturn → rest.head? ≠ some '\n'

variable (e : LineEnd)

theorem parts_of_unbroken {l : List Char} (hl : Unbroken l) : e.Parts l := by
  intro _ hhead
  exact hl.lineFeed_notMem (List.mem_of_mem_head? hhead)

theorem parts_append_mark {l : List Char} (hl : Unbroken l) (rest : List Char) :
    e.Parts (l ++ (e.mark.toList ++ rest)) := by
  rintro rfl hhead
  cases l with
  | nil =>
    rw [List.nil_append, mark] at hhead
    simp at hhead
  | cons c l =>
    rw [List.cons_append, List.head?_cons] at hhead
    exact hl.lineFeed_notMem (List.mem_of_mem_head? hhead)

theorem linesOf_mark_append {rest : List Char} (hrest : e.Parts rest) :
    linesOf (e.mark.toList ++ rest) = [] :: linesOf rest := by
  cases e with
  | lineFeed =>
    exact (linesOf.eq_3 '\n' rest fun _ h _ => absurd h (by decide)).trans (if_pos (by decide))
  | both => exact linesOf.eq_2 rest
  | carriageReturn =>
    refine (linesOf.eq_3 '\r' rest fun ds _ hds => hrest rfl ?_).trans (if_pos (by decide))
    rw [hds, List.head?_cons]

/-- A line and its end, in front of more text. -/
theorem linesOf_append_mark {l : List Char} (hl : Unbroken l) {rest : List Char}
    (hrest : e.Parts rest) : linesOf (l ++ (e.mark.toList ++ rest)) = l :: linesOf rest := by
  induction l with
  | nil => exact e.linesOf_mark_append hrest
  | cons c l ih =>
    rw [List.cons_append, linesOf_cons (hl c (List.mem_cons_self ..)),
      ih (hl.subset (List.subset_cons_self c l)), consLine]

/-- Lines of which each is ended are read back. -/
theorem linesOf_ended {ls : List (List Char)} (hls : ∀ l ∈ ls, Unbroken l) :
    linesOf (ls.flatMap (· ++ e.mark.toList)) = ls ∧ e.Parts (ls.flatMap (· ++ e.mark.toList)) := by
  induction ls with
  | nil => exact ⟨rfl, fun _ h => absurd h (by simp)⟩
  | cons l ls ih =>
    have hl := hls l (List.mem_cons_self ..)
    obtain ⟨hlines, hparts⟩ := ih fun k hk => hls k (List.mem_cons_of_mem _ hk)
    rw [List.flatMap_cons, List.append_assoc, e.linesOf_append_mark hl hparts, hlines]
    exact ⟨rfl, e.parts_append_mark hl _⟩

/-- Lines with marks between them are read back, but for an empty one at the end. -/
theorem linesOf_joined {ls : List (List Char)} (hls : ∀ l ∈ ls, Unbroken l) :
    (linesOf (e.mark.toList.intercalate ls) = ls ∨
        linesOf (e.mark.toList.intercalate ls) ++ [[]] = ls) ∧
      e.Parts (e.mark.toList.intercalate ls) := by
  induction ls with
  | nil => exact ⟨Or.inl rfl, fun _ h => absurd h (by simp)⟩
  | cons l ls ih =>
    have hl := hls l (List.mem_cons_self ..)
    obtain ⟨hlines, hparts⟩ := ih fun k hk => hls k (List.mem_cons_of_mem _ hk)
    cases ls with
    | nil =>
      rw [List.intercalate_singleton]
      refine ⟨?_, e.parts_of_unbroken hl⟩
      by_cases hne : l = []
      · exact Or.inr (by rw [hne]; rfl)
      · exact Or.inl (linesOf_eq_singleton hl hne)
    | cons m ls =>
      rw [List.intercalate_cons_cons, List.append_assoc, e.linesOf_append_mark hl hparts,
        List.cons_append, List.cons_inj_right, List.cons_inj_right]
      exact ⟨hlines, e.parts_append_mark hl _⟩

/-- The texts that are written with given lines, every line or every line but the last one being
ended. -/
def texts (e : LineEnd) (ls : List String) : List String :=
  [String.join (ls.map (· ++ e.mark)), joinWith e.mark ls]

theorem mem_texts_iff {ls : List String} {text : String} : text ∈ e.texts ls ↔
    text = String.join (ls.map (· ++ e.mark)) ∨ text = joinWith e.mark ls := by
  rw [texts, List.mem_cons, List.mem_singleton]

/-- A text whose lines are all ended. -/
theorem lines_ended {ls : List String} (hls : ∀ l ∈ ls, Unbroken l.toList) :
    lines (String.join (ls.map (· ++ e.mark))) = ls := by
  have htext : (String.join (ls.map (· ++ e.mark))).toList =
      (ls.map String.toList).flatMap (· ++ e.mark.toList) := by
    simp [String.toList_join, List.flatMap_map]
  rw [lines, htext, (e.linesOf_ended (List.forall_mem_map.2 hls)).1]
  simp

/-- A text that is written with lines has these lines. -/
theorem hasLines_of_mem_texts {ls : List String} (hls : ∀ l ∈ ls, Unbroken l.toList)
    {text : String} (h : text ∈ e.texts ls) : HasLines text ls := by
  have hback : (ls.map String.toList).map String.ofList = ls := by simp
  rcases e.mem_texts_iff.1 h with rfl | rfl
  · exact Or.inl (e.lines_ended hls)
  · rcases (e.linesOf_joined (List.forall_mem_map.2 hls)).1 with hlines | hlines
    · left
      rw [lines, toList_joinWith, hlines, hback]
    · right
      have hmapped := congrArg (List.map String.ofList) hlines
      rw [List.map_append, hback] at hmapped
      rwa [lines, toList_joinWith]

end LineEnd

/-! ## Lists of lines -/

/-- Lines that make up a text: none of them holds a break, and the last one is not empty. -/
structure IsLines (ls : List String) : Prop where
  unbroken : ∀ l ∈ ls, Unbroken l.toList
  last : ∀ l ∈ ls.getLast?, l ≠ ""

namespace IsLines

theorem of_forall {ls : List String} (h : ∀ l ∈ ls, Unbroken l.toList ∧ l ≠ "") : IsLines ls :=
  ⟨fun l hl => (h l hl).1, fun l hl => (h l (List.mem_of_mem_getLast? hl)).2⟩

theorem append {ls ms : List String} (hls : IsLines ls) (hms : IsLines ms) :
    IsLines (ls ++ ms) := by
  constructor
  · intro l hl
    rcases List.mem_append.1 hl with hl | hl
    · exact hls.unbroken l hl
    · exact hms.unbroken l hl
  · intro l hl
    rw [List.getLast?_append, Option.mem_def, Option.or_eq_some_iff] at hl
    rcases hl with hl | ⟨-, hl⟩
    · exact hms.last l hl
    · exact hls.last l hl

theorem flatMap {α : Type} {as : List α} {f : α → List String} (h : ∀ a ∈ as, IsLines (f a)) :
    IsLines (as.flatMap f) := by
  induction as with
  | nil => exact of_forall (by simp)
  | cons a as ih =>
    rw [List.flatMap_cons]
    exact (h a (List.mem_cons_self ..)).append (ih fun b hb => h b (List.mem_cons_of_mem _ hb))

end IsLines

/-- Lines joined with line feeds are read back. -/
theorem lines_joinWith {ls : List String} (h : IsLines ls) : lines (joinWith "\n" ls) = ls := by
  have htext : joinWith "\n" ls ∈ LineEnd.lineFeed.texts ls := LineEnd.lineFeed.mem_texts_iff.2 (Or.inr rfl)
  rcases LineEnd.lineFeed.hasLines_of_mem_texts h.unbroken htext with hlines | hlines
  · exact hlines
  · exact absurd rfl (h.last "" (by rw [← hlines, List.getLast?_concat]; rfl))

/-- Lines with a line feed after each of them are read back. -/
theorem lines_terminated {ls : List String} (hls : ∀ l ∈ ls, Unbroken l.toList) :
    lines (String.join (ls.map (· ++ "\n"))) = ls := LineEnd.lineFeed.lines_ended hls

end FeatureAudit.Text
