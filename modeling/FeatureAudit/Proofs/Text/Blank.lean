import Mathlib.Data.List.DropRight
import FeatureAudit.Text.Blank

/-!
# Trimmed texts and their words

A text is trimmed when it neither begins nor ends with white space (`trimmed_iff`), and trimming
makes it so (`trimmed_trimChars`). The words of a text are what stands between its white space: they
are never empty and hold no white space themselves. Words with spaces between them are read back
(`wordsOf_intercalate`).
-/

set_option autoImplicit false

namespace FeatureAudit.Text

/-- What holds of all characters of a list is decided on the list: the type of characters is finite
as well, but too large to go through. -/
instance (priority := 2000) decidableForallMem (p : Char → Prop) [DecidablePred p]
    (cs : List Char) : Decidable (∀ c ∈ cs, p c) :=
  List.decidableBAll p cs

/-! ## Trimming -/

/-- White space at neither end. -/
def Trimmed (cs : List Char) : Prop := trimChars cs = cs

instance (cs : List Char) : Decidable (Trimmed cs) := inferInstanceAs (Decidable (_ = _))

theorem trimmed_nil : Trimmed [] := rfl

theorem isBlank_of_mem_head?_trimStart {cs : List Char} {c : Char}
    (h : c ∈ (trimStart cs).head?) : isBlank c = false := by
  have hnot := List.head?_dropWhile_not isBlank cs
  rw [← trimStart, Option.mem_def.1 h] at hnot
  exact hnot

theorem isBlank_of_mem_getLast?_trimEnd {cs : List Char} {c : Char}
    (h : c ∈ (trimEnd cs).getLast?) : isBlank c = false := by
  have hnot := List.head?_dropWhile_not isBlank cs.reverse
  rw [trimEnd, List.getLast?_reverse, Option.mem_def] at h
  rw [h] at hnot
  exact hnot

theorem trimStart_eq_self {cs : List Char} (h : ∀ c ∈ cs.head?, isBlank c = false) :
    trimStart cs = cs := by
  cases cs with
  | nil => rfl
  | cons c cs => rw [trimStart, List.dropWhile_cons_of_neg (by simp [h c rfl])]

theorem trimEnd_eq_self {cs : List Char} (h : ∀ c ∈ cs.getLast?, isBlank c = false) :
    trimEnd cs = cs := by
  have hrev : trimStart cs.reverse = cs.reverse :=
    trimStart_eq_self (by simpa [List.head?_reverse] using h)
  rw [trimEnd, ← trimStart, hrev, List.reverse_reverse]

theorem trimEnd_isPrefix (cs : List Char) : trimEnd cs <+: cs := List.rdropWhile_prefix _ cs

/-- Dropping trailing white space keeps the first character, if any character is kept. -/
theorem head?_of_mem_head?_trimEnd {cs : List Char} {c : Char} (h : c ∈ (trimEnd cs).head?) :
    cs.head? = some c := by
  obtain ⟨t, ht⟩ := trimEnd_isPrefix cs
  rw [← ht, List.head?_append, Option.mem_def.1 h]
  rfl

theorem isBlank_of_mem_head?_trimChars {cs : List Char} {c : Char}
    (h : c ∈ (trimChars cs).head?) : isBlank c = false :=
  isBlank_of_mem_head?_trimStart (head?_of_mem_head?_trimEnd h)

/-- A text is trimmed exactly when neither of its ends is white space. -/
theorem trimmed_iff {cs : List Char} : Trimmed cs ↔
    (∀ c ∈ cs.head?, isBlank c = false) ∧ ∀ c ∈ cs.getLast?, isBlank c = false := by
  constructor
  · intro h
    rw [Trimmed] at h
    constructor
    · intro c hc
      rw [← h] at hc
      exact isBlank_of_mem_head?_trimChars hc
    · intro c hc
      rw [← h, trimChars] at hc
      exact isBlank_of_mem_getLast?_trimEnd hc
  · rintro ⟨hhead, hlast⟩
    rw [Trimmed, trimChars, trimStart_eq_self hhead, trimEnd_eq_self hlast]

/-- Trimming a text makes it trimmed. -/
theorem trimmed_trimChars (cs : List Char) : Trimmed (trimChars cs) := by
  rw [trimmed_iff]
  exact ⟨fun c hc => isBlank_of_mem_head?_trimChars hc,
    fun c hc => isBlank_of_mem_getLast?_trimEnd hc⟩

theorem trimChars_subset (cs : List Char) : trimChars cs ⊆ cs := fun _ hc =>
  (List.dropWhile_suffix isBlank).subset ((trimEnd_isPrefix _).subset hc)

theorem trimChars_cons_blank {b : Char} (hb : isBlank b = true) (cs : List Char) :
    trimChars (b :: cs) = trimChars cs := by
  rw [trimChars, trimStart, List.dropWhile_cons_of_pos hb]
  rfl

theorem trimEnd_concat_blank {b : Char} (hb : isBlank b = true) (cs : List Char) :
    trimEnd (cs ++ [b]) = trimEnd cs := by
  rw [trimEnd, List.reverse_concat, List.dropWhile_cons_of_pos hb]
  rfl

theorem trimChars_concat_blank {b : Char} (hb : isBlank b = true) (cs : List Char) :
    trimChars (cs ++ [b]) = trimChars cs := by
  rw [trimChars, trimChars, trimStart, trimStart, List.dropWhile_append]
  split
  · rename_i hnil
    rw [List.isEmpty_iff.1 hnil, List.dropWhile_cons_of_pos hb]
    rfl
  · exact trimEnd_concat_blank hb _

theorem trimEnd_cons (c : Char) (cs : List Char) :
    trimEnd (c :: cs) = if trimEnd cs = [] then trimEnd [c] else c :: trimEnd cs := by
  simp only [trimEnd, List.reverse_cons, List.reverse_nil, List.nil_append, List.dropWhile_append,
    List.reverse_eq_nil_iff]
  by_cases hnil : cs.reverse.dropWhile isBlank = [] <;> simp [hnil]

/-- A character that is not white space keeps all in front of it. -/
theorem trimEnd_append_cons {c : Char} (hc : isBlank c = false) (cs ds : List Char) :
    trimEnd (cs ++ c :: ds) = cs ++ c :: trimEnd ds := by
  induction cs with
  | nil =>
    rw [List.nil_append, List.nil_append, trimEnd_cons]
    split
    · rename_i hnil
      rw [hnil, trimEnd_eq_self (by simpa using hc)]
    · rfl
  | cons d cs ih => rw [List.cons_append, trimEnd_cons, ih, if_neg (by simp), List.cons_append]

theorem trimmed_of_forall {cs : List Char} (h : ∀ c ∈ cs, isBlank c = false) : Trimmed cs := by
  rw [trimmed_iff]
  exact ⟨fun c hc => h c (List.mem_of_mem_head? hc),
    fun c hc => h c (List.mem_of_mem_getLast? hc)⟩

/-- Trimmed texts at both ends make a text trimmed, whatever stands between them. -/
theorem Trimmed.append {cs ds : List Char} (hcs : Trimmed cs) (hds : Trimmed ds) (hne : cs ≠ [])
    (hne' : ds ≠ []) (between : List Char) : Trimmed (cs ++ between ++ ds) := by
  rw [trimmed_iff] at hcs hds ⊢
  constructor
  · rw [List.append_assoc, List.head?_append_of_ne_nil cs hne]
    exact hcs.1
  · rw [List.getLast?_append_of_ne_nil _ hne']
    exact hds.2

/-! ## White space at the ends -/

/-- Texts that differ in white space at their ends alone: what is added to or removed from one to
get the other. -/
def Repadded (l m : String) : Prop :=
  ∃ core start stop start' stop' : List Char,
    (∀ c ∈ start ++ stop ++ start' ++ stop', isBlank c = true) ∧
      l.toList = start ++ core ++ stop ∧ m.toList = start' ++ core ++ stop'

theorem trimChars_blank_append {bs : List Char} (hbs : ∀ b ∈ bs, isBlank b = true)
    (cs : List Char) : trimChars (bs ++ cs) = trimChars cs := by
  induction bs with
  | nil => rfl
  | cons b bs ih =>
    rw [List.cons_append, trimChars_cons_blank (hbs b (List.mem_cons_self ..)),
      ih fun c hc => hbs c (List.mem_cons_of_mem _ hc)]

theorem trimChars_append_blank {bs : List Char} (hbs : ∀ b ∈ bs, isBlank b = true)
    (cs : List Char) : trimChars (cs ++ bs) = trimChars cs := by
  induction bs generalizing cs with
  | nil => rw [List.append_nil]
  | cons b bs ih =>
    rw [List.append_cons, ih fun c hc => hbs c (List.mem_cons_of_mem _ hc),
      trimChars_concat_blank (hbs b (List.mem_cons_self ..))]

/-- What trimming drops is white space. -/
theorem exists_trimChars (cs : List Char) :
    ∃ start stop, (∀ c ∈ start, isBlank c = true) ∧ cs = start ++ (trimChars cs ++ stop) := by
  obtain ⟨stop, hstop⟩ := trimEnd_isPrefix (trimStart cs)
  refine ⟨cs.takeWhile isBlank, stop, List.all_eq_true.1 List.all_takeWhile, ?_⟩
  rw [trimChars, hstop, trimStart, List.takeWhile_append_dropWhile]

/-- White space at the ends is lost in trimming. -/
theorem trimChars_eq_of_repadded {l m : String} (h : Repadded l m) :
    trimChars l.toList = trimChars m.toList := by
  obtain ⟨core, start, stop, start', stop', hblank, hl, hm⟩ := h
  have hstart : ∀ c ∈ start, isBlank c = true := fun c hc => hblank c (by simp [hc])
  have hstop : ∀ c ∈ stop, isBlank c = true := fun c hc => hblank c (by simp [hc])
  have hstart' : ∀ c ∈ start', isBlank c = true := fun c hc => hblank c (by simp [hc])
  have hstop' : ∀ c ∈ stop', isBlank c = true := fun c hc => hblank c (by simp [hc])
  rw [hl, hm, trimChars_append_blank hstop, trimChars_append_blank hstop',
    trimChars_blank_append hstart, trimChars_blank_append hstart']

/-! ## Words -/

theorem mem_splitOnP_not {α : Type} {p : α → Bool} {as w : List α} (hw : w ∈ as.splitOnP p) :
    ∀ a ∈ w, p a = false := by
  induction as generalizing w with
  | nil =>
    rw [List.splitOnP_nil, List.mem_singleton] at hw
    simp [hw]
  | cons b as ih =>
    rw [List.splitOnP_cons_eq_if_modifyHead] at hw
    cases hb : p b with
    | true =>
      rw [hb, if_pos rfl, List.mem_cons] at hw
      rcases hw with rfl | hw
      · simp
      · exact ih hw
    | false =>
      rw [hb, if_neg Bool.false_ne_true] at hw
      cases hs : as.splitOnP p with
      | nil => exact absurd hs (List.splitOnP_ne_nil p as)
      | cons v vs =>
        rw [hs, List.modifyHead_cons, List.mem_cons] at hw
        rcases hw with rfl | hw
        · intro a ha
          rcases List.mem_cons.1 ha with rfl | ha
          · exact hb
          · exact ih (by simp [hs]) a ha
        · exact ih (by simp [hs, hw])

/-- A word is not empty and holds no white space. -/
theorem word_of_mem_wordsOf {cs w : List Char} (hw : w ∈ wordsOf cs) :
    w ≠ [] ∧ ∀ c ∈ w, isBlank c = false := by
  rw [wordsOf, List.mem_filter] at hw
  exact ⟨by simpa using hw.2, mem_splitOnP_not hw.1⟩

/-- A text tells what stands in front of its first blank. -/
theorem append_blank_inj {v w cs ds : List Char} (hv : ∀ c ∈ v, isBlank c = false)
    (hw : ∀ c ∈ w, isBlank c = false) {b : Char} (hb : isBlank b = true)
    (h : v ++ b :: cs = w ++ b :: ds) : v = w ∧ cs = ds := by
  have hfirst : ∀ {u es : List Char}, (∀ c ∈ u, isBlank c = false) →
      (u ++ b :: es).takeWhile (fun c => !isBlank c) = u := by
    intro u es hu
    rw [List.takeWhile_append_of_pos fun c hc => by simp [hu c hc]]
    simp [hb]
  have hvw : v = w := by rw [← hfirst hv, h, hfirst hw]
  rw [hvw, List.append_cancel_left_eq] at h
  exact ⟨hvw, List.tail_eq_of_cons_eq h⟩

/-- A text that begins with other than white space begins with its first word. -/
theorem head?_wordsOf_cons {c : Char} (hc : isBlank c = false) (cs : List Char) :
    ∃ w ws, wordsOf (c :: cs) = (c :: w) :: ws := by
  obtain ⟨v, vs, hs⟩ := List.exists_cons_of_ne_nil (List.splitOnP_ne_nil isBlank cs)
  refine ⟨v, vs.filter fun w => !w.isEmpty, ?_⟩
  rw [wordsOf, List.splitOnP_cons_eq_if_modifyHead, hc, if_neg Bool.false_ne_true, hs]
  simp

theorem wordsOf_word {w : List Char} (hne : w ≠ []) (h : ∀ c ∈ w, isBlank c = false) :
    wordsOf w = [w] := by
  simp [wordsOf, List.splitOnP_eq_singleton h, hne]

theorem wordsOf_append_blank {w : List Char} (hne : w ≠ []) (h : ∀ c ∈ w, isBlank c = false)
    {b : Char} (hb : isBlank b = true) (cs : List Char) :
    wordsOf (w ++ b :: cs) = w :: wordsOf cs := by
  simp [wordsOf, List.splitOnP_append_cons_of_forall_mem h b hb, hne]

/-- Words with spaces between them are read back. -/
theorem wordsOf_intercalate {ws : List (List Char)}
    (h : ∀ w ∈ ws, w ≠ [] ∧ ∀ c ∈ w, isBlank c = false) :
    wordsOf (List.intercalate [' '] ws) = ws := by
  induction ws with
  | nil => rfl
  | cons w ws ih =>
    obtain ⟨hne, hw⟩ := h w (List.mem_cons_self ..)
    cases ws with
    | nil => rw [List.intercalate_singleton, wordsOf_word hne hw]
    | cons v ws =>
      rw [List.intercalate_cons_cons, List.append_assoc, List.singleton_append,
        wordsOf_append_blank hne hw (by decide), ih fun u hu => h u (List.mem_cons_of_mem _ hu)]

/-- Words with spaces between them make a trimmed text. -/
theorem trimmed_intercalate {ws : List (List Char)}
    (h : ∀ w ∈ ws, w ≠ [] ∧ ∀ c ∈ w, isBlank c = false) :
    Trimmed (List.intercalate [' '] ws) ∧ (ws ≠ [] → List.intercalate [' '] ws ≠ []) := by
  induction ws with
  | nil => exact ⟨trimmed_nil, fun h => absurd rfl h⟩
  | cons w ws ih =>
    obtain ⟨hne, hw⟩ := h w (List.mem_cons_self ..)
    cases ws with
    | nil =>
      rw [List.intercalate_singleton]
      exact ⟨trimmed_of_forall hw, fun _ => hne⟩
    | cons v ws =>
      obtain ⟨htrim, hrest⟩ := ih fun u hu => h u (List.mem_cons_of_mem _ hu)
      rw [List.intercalate_cons_cons]
      exact ⟨(trimmed_of_forall hw).append htrim hne (hrest (List.cons_ne_nil v ws)) [' '],
        fun _ => by simp⟩

end FeatureAudit.Text
