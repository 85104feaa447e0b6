import Mathlib.Data.List.Count
import Mathlib.Data.List.Infix
import FeatureAudit.Proofs.Document.Session
import FeatureAudit.Proofs.Text.Lines

/-!
# Paragraphs of free text

A description consists of lines with a line feed or one empty line between neighbours
(`Paragraphs`). Such a text neither begins nor ends with a line feed and never has three of them in
a row. The lines that a session collects join to such a text (`Collected.paragraphs`), and a
description with a further paragraph is one again.
-/

set_option autoImplicit false

namespace FeatureAudit.Document

/-- A text of lines with a property, one or two line feeds between neighbours. -/
inductive Paragraphs (P : List Char → Prop) : List Char → Prop
  /-- A line. -/
  | line {l : List Char} : P l → Paragraphs P l
  /-- A further line. -/
  | next {t l : List Char} : Paragraphs P t → P l → Paragraphs P (t ++ '\n' :: l)
  /-- A further line after an empty one. -/
  | gap {t l : List Char} : Paragraphs P t → P l → Paragraphs P (t ++ '\n' :: '\n' :: l)

/-- A line with characters that are no line feeds. -/
def IsProseLine (l : List Char) : Prop := l ≠ [] ∧ '\n' ∉ l

/-- A description without loose line feeds: no line feed at its ends and no three in a row. -/
def WellSpaced (cs : List Char) : Prop :=
  cs.head? ≠ some '\n' ∧ cs.getLast? ≠ some '\n' ∧ ¬ ['\n', '\n', '\n'] <:+: cs

theorem wellSpaced_nil : WellSpaced [] := ⟨by simp, by simp, by simp⟩

namespace Paragraphs

variable {P : List Char → Prop}

/-- Paragraphs after paragraphs, with an empty line between them. -/
theorem append {t u : List Char} (ht : Paragraphs P t) (hu : Paragraphs P u) :
    Paragraphs P (t ++ '\n' :: '\n' :: u) := by
  induction hu with
  | line hl => exact ht.gap hl
  | next _ hl ih =>
    have h := ih.next hl
    rwa [List.append_assoc] at h
  | gap _ hl ih =>
    have h := ih.gap hl
    rwa [List.append_assoc] at h

end Paragraphs

/-! ## Line feeds in paragraphs -/

/-- A line after text that ends with other than a line feed brings at most two in a row. -/
theorem not_three_lineFeeds {t l : List Char} {k : Nat} (hk : k ≤ 2) (hl : '\n' ∉ l)
    (hlast : t.getLast? ≠ some '\n') (ht : ¬ ['\n', '\n', '\n'] <:+: t) :
    ¬ ['\n', '\n', '\n'] <:+: t ++ (List.replicate k '\n' ++ l) := by
  induction t with
  | nil =>
    intro h
    have hcount := h.sublist.count_le '\n'
    rw [List.nil_append, List.count_append, List.count_replicate_self,
      List.count_eq_zero_of_not_mem hl] at hcount
    have hthree : ['\n', '\n', '\n'].count '\n' = 3 := by decide
    omega
  | cons c t ih =>
    intro h
    rw [List.cons_append, List.infix_cons_iff] at h
    rcases h with hprefix | hinfix
    · -- three line feeds at the front reach beyond `c :: t` only if it ends with one
      obtain ⟨rfl, hrest⟩ := List.cons_prefix_cons.1 hprefix
      match t with
      | [] => exact hlast rfl
      | [d] =>
        obtain ⟨rfl, -⟩ := List.cons_prefix_cons.1 hrest
        exact hlast rfl
      | d :: e :: t =>
        obtain ⟨rfl, hmore⟩ := List.cons_prefix_cons.1 hrest
        obtain ⟨rfl, -⟩ := List.cons_prefix_cons.1 hmore
        exact ht (List.IsPrefix.isInfix ⟨t, rfl⟩)
    · refine ih ?_ (fun hc => ht (List.infix_cons hc)) hinfix
      cases t with
      | nil => simp
      | cons d t => simpa using hlast

theorem wellSpaced_append {t l : List Char} {k : Nat} (hk : k ≤ 2) (hne : t ≠ [])
    (ht : WellSpaced t) (hl : IsProseLine l) : WellSpaced (t ++ (List.replicate k '\n' ++ l)) := by
  obtain ⟨hhead, hlast, hthree⟩ := ht
  refine ⟨?_, ?_, not_three_lineFeeds hk hl.2 hlast hthree⟩
  · rwa [List.head?_append_of_ne_nil t hne]
  · rw [← List.append_assoc, List.getLast?_append_of_ne_nil _ hl.1]
    exact fun h => hl.2 (List.mem_of_mem_getLast? h)

namespace Paragraphs

theorem ne_nil {t : List Char} (h : Paragraphs IsProseLine t) : t ≠ [] := by
  cases h with
  | line hl => exact hl.1
  | next _ _ => simp
  | gap _ _ => simp

/-- Paragraphs have no loose line feeds. -/
theorem wellSpaced {t : List Char} (h : Paragraphs IsProseLine t) : WellSpaced t := by
  induction h with
  | line hl =>
    refine ⟨fun h => hl.2 (List.mem_of_mem_head? h), fun h => hl.2 (List.mem_of_mem_getLast? h),
      fun h => hl.2 (h.subset (List.mem_cons_self ..))⟩
  | next ht hl ih => exact wellSpaced_append (k := 1) (by omega) ht.ne_nil ih hl
  | gap ht hl ih => exact wellSpaced_append (k := 2) (by omega) ht.ne_nil ih hl

end Paragraphs

/-! ## Descriptions -/

/-- A description: nothing, or paragraphs. -/
def IsDescription (d : String) : Prop := d = "" ∨ Paragraphs IsProseLine d.toList

theorem IsDescription.wellSpaced {d : String} (h : IsDescription d) : WellSpaced d.toList := by
  rcases h with rfl | h
  · exact wellSpaced_nil
  · exact h.wellSpaced

theorem IsDescription.describe {d p : String} (hd : IsDescription d) (hp : IsDescription p) :
    IsDescription (Session.describe d p) := by
  unfold Session.describe Session.addParagraph
  split
  · exact hd
  · rename_i hpne
    split
    · exact hp
    · rename_i hdne
      refine Or.inr ?_
      have htext : (d ++ "\n\n" ++ p).toList = d.toList ++ '\n' :: '\n' :: p.toList := by simp
      rw [htext]
      exact (hd.resolve_left hdne).append (hp.resolve_left hpne)

/-! ## Collected lines -/

/-- Lines as a session collects them: free text, and gaps that set it apart. -/
inductive Collected : List String → Prop
  /-- Nothing. -/
  | nil : Collected []
  /-- A further line of free text. -/
  | line {b : List String} {l : String} :
    Collected b → IsProseLine l.toList → Collected (b ++ [l])
  /-- A gap after what there is. -/
  | gap {b : List String} : Collected b → Collected (Session.withGap b)

namespace Session

theorem dropGaps_concat_gap (b : List String) : dropGaps (b ++ [""]) = dropGaps b := by
  simp [dropGaps]

theorem dropGaps_concat_line {l : String} (h : l ≠ "") (b : List String) :
    dropGaps (b ++ [l]) = b ++ [l] := by
  simp [dropGaps, h]

/-- Gaps aside, no line is dropped. -/
theorem filter_dropGaps (b : List String) :
    (dropGaps b).filter (· ≠ "") = b.filter (· ≠ "") := by
  induction b using List.reverseRecOn with
  | nil => rfl
  | append_singleton b l ih =>
    by_cases h : l = ""
    · rw [h, dropGaps_concat_gap, ih]
      simp
    · rw [dropGaps_concat_line h]

theorem joinWith_concat (sep : String) {ss : List String} (h : ss ≠ []) (s : String) :
    Text.joinWith sep (ss ++ [s]) = Text.joinWith sep ss ++ sep ++ s := by
  cases ss with
  | nil => exact absurd rfl h
  | cons t ss => rw [List.cons_append, Text.joinWith, List.foldl_concat, Text.joinWith]

end Session

namespace Collected

open Session

/-- What has been collected is its text, perhaps with a gap at the end. -/
theorem eq_dropGaps {b : List String} (h : Collected b) :
    b = dropGaps b ∨ b = dropGaps b ++ [""] := by
  induction h with
  | nil => exact Or.inl rfl
  | line _ hl _ =>
    have hne := fun heq => hl.1 (String.toList_eq_nil_iff.2 heq)
    exact Or.inl (dropGaps_concat_line hne _).symm
  | @gap b _ ih =>
    unfold withGap
    split
    · exact ih
    · rename_i hsplit
      rw [not_or] at hsplit
      rcases ih with heq | heq
      · exact Or.inr (by rw [dropGaps_concat_gap, ← heq])
      · exact absurd (by rw [heq]; simp) hsplit.2

theorem lineFeed_notMem {b : List String} (h : Collected b) : ∀ l ∈ b, '\n' ∉ l.toList := by
  induction h with
  | nil => simp
  | line _ hl ih =>
    intro m hm
    rcases List.mem_append.1 hm with hm | hm
    · exact ih m hm
    · rw [List.mem_singleton.1 hm]
      exact hl.2
  | gap _ ih =>
    unfold withGap
    split
    · exact ih
    · intro m hm
      rcases List.mem_append.1 hm with hm | hm
      · exact ih m hm
      · rw [List.mem_singleton.1 hm]
        simp

/-- Collected lines join to paragraphs. -/
theorem paragraphs {b : List String} (h : Collected b) :
    b = [] ∨ Paragraphs IsProseLine (Text.joinWith "\n" (dropGaps b)).toList := by
  induction h with
  | nil => exact Or.inl rfl
  | @line b l hb hl ih =>
    have hne : l ≠ "" := fun heq => hl.1 (String.toList_eq_nil_iff.2 heq)
    rw [dropGaps_concat_line hne]
    refine Or.inr ?_
    rcases ih with rfl | hprose
    · exact .line hl
    · have hcore : dropGaps b ≠ [] := by
        intro hnil
        rw [hnil] at hprose
        exact hprose.ne_nil rfl
      rcases hb.eq_dropGaps with heq | heq
      · rw [heq, joinWith_concat _ hcore]
        simpa using hprose.next hl
      · rw [heq, joinWith_concat _ (by simp), joinWith_concat _ hcore]
        simpa using hprose.gap hl
  | @gap b hb ih =>
    unfold withGap
    split
    · exact ih
    · rename_i hsplit
      rw [not_or] at hsplit
      rw [dropGaps_concat_gap]
      exact Or.inr (ih.resolve_left hsplit.1)

theorem isDescription {b : List String} (h : Collected b) :
    IsDescription (Text.joinWith "\n" (dropGaps b)) := by
  rcases h.paragraphs with rfl | hprose
  · exact Or.inl rfl
  · exact Or.inr hprose

end Collected

end FeatureAudit.Document
