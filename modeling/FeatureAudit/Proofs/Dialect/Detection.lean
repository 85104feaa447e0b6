import FeatureAudit.Proofs.Dialect.Reading

/-!
# Detection looks at the first lines only

Whether a document is taken to be in the dialect is decided by its path and by the first fifty of its
lines that are neither blank nor comments (`looksScripted_bounded`). Lines that are skipped take no
part, neither in the verdict nor in the count, and nothing that is put behind a document takes a
verdict for the dialect back.

* `foundAfter_eq_any`: the search, told by the lines that it has looked at before.
* `counts_iff` and `tells_iff`: the two questions about a line, as membership in languages.
-/

set_option autoImplicit false

namespace FeatureAudit.Dialect

open Text
open scoped Computability

/-! ## Single lines -/

/-- Lines of white space. -/
def blankLine : Language Char := run isBlank

/-- Comments: a hash, with white space in front of it or without. -/
def commentLine : Language Char := opening (run isBlank * exactly "#")

/-- Lines with a phrase that tells the dialect. -/
def phraseLine : Language Char := within (oneOf phrases)

/-- Lines that tell the dialect: with a bullet step, a placeholder or a phrase. -/
def tellingLine : Language Char := starLine + schemaLine + phraseLine

/-- Whether a line counts: it is neither blank nor a comment. -/
def Counts (l : String) : Prop := l.toList ∉ blankLine ∧ l.toList ∉ commentLine

theorem counts_iff {l : String} : counts l.toList = true ↔ Counts l := by
  have hblank : l.toList ∈ blankLine ↔ l.toList.dropWhile isBlank = [] :=
    List.dropWhile_eq_nil_iff.symm
  have hcomment : l.toList ∈ commentLine ↔ (l.toList.dropWhile isBlank).head? = some '#' := by
    rw [commentLine, mem_opening_run_mul (avoids_exactly rfl (by decide)),
      mem_opening_char (show "#".toList = ['#'] from rfl)]
  rw [Counts, hblank, hcomment, counts]
  simp

instance : DecidablePred Counts := fun _ => decidable_of_iff _ counts_iff

theorem tells_iff {line : List Char} : tells line = true ↔ line ∈ tellingLine := by
  rw [tells, Bool.or_eq_true, Bool.or_eq_true, isSome_starContent?_iff_starLine, hasSchemaMarker,
    any_occurs_iff_mem_within, any_occurs_iff_mem_within]
  rfl

/-! ## The first lines that count -/

/-- The first fifty lines that are neither blank nor comments. -/
def firstLines (ls : List String) : List String := (ls.filter fun l => decide (Counts l)).take 50

/-- The search looks at as many of the lines that count as it has left, one after the other. -/
theorem foundAfter_eq_any (seen : Nat) (ls : List String) :
    foundAfter seen ls =
      ((ls.filter fun l => decide (Counts l)).take (lineLimit - seen)).any fun l =>
        tells l.toList := by
  induction ls generalizing seen with
  | nil => simp [foundAfter]
  | cons l ls ih =>
    by_cases hcounts : Counts l
    · by_cases hlimit : lineLimit ≤ seen
      -- one too many
      · simp [foundAfter, counts_iff.2 hcounts, hlimit]
      · have hleft : lineLimit - seen = (lineLimit - (seen + 1)) + 1 := by omega
        have hkept : (l :: ls).filter (fun l => decide (Counts l)) =
            l :: ls.filter fun l => decide (Counts l) := by simp [hcounts]
        rw [hkept, hleft, List.take_succ_cons, List.any_cons, ← ih]
        simp [foundAfter, counts_iff.2 hcounts, hlimit]
    · have hskipped : counts l.toList = false := by simpa using mt counts_iff.1 hcounts
      have hkept : (l :: ls).filter (fun l => decide (Counts l)) =
          ls.filter fun l => decide (Counts l) := by simp [hcounts]
      rw [hkept, ← ih]
      simp [foundAfter, hskipped]

theorem looksScripted_eq (ls : List String) (path : String) : looksScripted ls path =
    ((firstLines ls).any (fun l => tells l.toList) || Text.contains (Text.lower path) name) := by
  rw [looksScripted, foundAfter_eq_any]
  rfl

theorem looksScripted_iff (ls : List String) (path : String) : looksScripted ls path = true ↔
    (Text.lower path).toList ∈ within (exactly "karate") ∨
      ∃ l ∈ firstLines ls, l.toList ∈ tellingLine := by
  rw [looksScripted_eq, Bool.or_eq_true, or_comm]
  refine or_congr occurs_iff_mem_within ?_
  simp only [List.any_eq_true, tells_iff]

/-- The verdict depends on the path and on the first lines that count. -/
theorem looksScripted_congr {ls ms : List String} (h : firstLines ms = firstLines ls)
    (path : String) : looksScripted ms path = looksScripted ls path := by
  rw [looksScripted_eq, looksScripted_eq, h]

/-! ## Changes of a document -/

/-- Lines that do not count may be left out. -/
theorem firstLines_append_cons {l : String} (h : ¬ Counts l) (before after : List String) :
    firstLines (before ++ l :: after) = firstLines (before ++ after) := by
  simp [firstLines, h]

/-- Behind fifty lines that count nothing is looked at. -/
theorem firstLines_append {ls : List String} (h : 50 ≤ ls.countP fun l => decide (Counts l))
    (more : List String) : firstLines (ls ++ more) = firstLines ls := by
  rw [firstLines, firstLines, List.filter_append, List.take_append_of_le_length]
  rwa [← List.countP_eq_length_filter]

/-- What is put behind lines comes behind their first lines. -/
theorem firstLines_prefix_append (ls more : List String) :
    firstLines ls <+: firstLines (ls ++ more) := by
  rw [firstLines, firstLines, List.filter_append]
  exact (List.prefix_append _ _).take 50

/-- **Detection is a bounded look-ahead.** A document looks scripted exactly if its path in lower
case names the dialect or one of its first fifty lines that are neither blank nor comments has a
bullet step, a placeholder or a phrase of the dialect. So documents that agree in these lines and in
the path get the same verdict: blank lines and comments may be put in anywhere, and behind fifty lines
that count anything may follow. Lines that are put behind a document never take the verdict back. -/
theorem looksScripted_bounded (ls : List String) (path : String) :
    (looksScripted ls path = true ↔ (Text.lower path).toList ∈ within (exactly "karate") ∨
      ∃ l ∈ firstLines ls, l.toList ∈ tellingLine) ∧
    (∀ ms, firstLines ms = firstLines ls → looksScripted ms path = looksScripted ls path) ∧
    (∀ before l after, ls = before ++ after → ¬ Counts l →
      looksScripted (before ++ l :: after) path = looksScripted ls path) ∧
    (50 ≤ ls.countP (fun l => decide (Counts l)) → ∀ more,
      looksScripted (ls ++ more) path = looksScripted ls path) ∧
    ∀ more, looksScripted ls path = true → looksScripted (ls ++ more) path = true := by
  refine ⟨looksScripted_iff ls path, fun ms h => looksScripted_congr h path, ?_, ?_, ?_⟩
  · rintro before l after rfl hskipped
    exact looksScripted_congr (firstLines_append_cons hskipped before after) path
  · intro hmany more
    exact looksScripted_congr (firstLines_append hmany more) path
  · intro more htold
    rw [looksScripted_iff] at htold ⊢
    refine htold.imp_right ?_
    rintro ⟨l, hl, htells⟩
    exact ⟨l, (firstLines_prefix_append ls more).subset hl, htells⟩

/-- Fifty lines that count and do not tell the dialect. -/
def desks : List String := List.replicate 50 "Given a desk"

theorem looksScripted_bounded_desks :
    50 ≤ desks.countP (fun l => decide (Counts l)) ∧ ¬ Counts "\t# no url here" ∧
      looksScripted desks "desks.feature" = false ∧
      looksScripted (desks ++ ["* url 'desks'"]) "desks.feature" = false ∧
      looksScripted ("\t# no url here" :: desks) "desks.feature" = false ∧
      looksScripted (desks.drop 1 ++ ["* url 'desks'"]) "desks.feature" = true ∧
      looksScripted (desks.drop 1 ++ ["* url 'desks'"] ++ desks) "desks.feature" = true := by
  have hmany : 50 ≤ desks.countP (fun l => decide (Counts l)) := by decide +kernel
  have hskipped : ¬ Counts "\t# no url here" := by decide +kernel
  have hplain : looksScripted desks "desks.feature" = false := by decide +kernel
  have htold : looksScripted (desks.drop 1 ++ ["* url 'desks'"]) "desks.feature" = true := by
    decide +kernel
  obtain ⟨-, -, hinsert, hbehind, -⟩ := looksScripted_bounded desks "desks.feature"
  have hkept := (looksScripted_bounded (desks.drop 1 ++ ["* url 'desks'"]) "desks.feature").2.2.2.2
  exact ⟨hmany, hskipped, hplain, (hbehind hmany _).trans hplain,
    (hinsert [] _ desks rfl hskipped).trans hplain, htold, hkept desks htold⟩

end FeatureAudit.Dialect
