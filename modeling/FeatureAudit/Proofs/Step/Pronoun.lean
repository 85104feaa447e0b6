import FeatureAudit.Step.Pronoun
import FeatureAudit.Proofs.Step.Pieces

/-!
# Which pronoun of a step is ambiguous

The tokens of a step are those of the pieces that its body is cut into. A token can be referred to
when it is a literal, or a word that introduces the noun after it; a pronoun is bare when it
introduces nothing. The pronoun reported is the first bare one, and it is reported only if nothing
in front of it can be referred to (`ambiguousPronoun?_eq_some_iff_unresolved`).
-/

set_option autoImplicit false

namespace FeatureAudit.Step

/-! ## Places among tokens -/

section Places

variable (pronouns : List String) (ts : List Token) (i : Nat)

/-- A determiner with a word after it. -/
def Determines : Prop :=
  ∃ w ∈ determiners, ts[i]? = some (.word w) ∧ ∃ next, ts[i + 1]? = some (.word next)

/-- A demonstrative with a word after it that does not show it to be a pronoun. -/
def Demonstrates : Prop :=
  ∃ w ∈ demonstratives, ts[i]? = some (.word w) ∧
    ∃ next, next ∉ auxiliaries ∧ ts[i + 1]? = some (.word next)

/-- Something that a pronoun can refer to: a literal, or a word that introduces a noun, where a
demonstrative counts if it is one of the pronouns. -/
def Antecedent : Prop :=
  ts[i]? = some .literal ∨ Determines ts i ∨
    Demonstrates ts i ∧ ∃ w ∈ pronouns, ts[i]? = some (.word w)

/-- A pronoun that introduces no noun. -/
structure Bare (w : String) : Prop where
  word : ts[i]? = some (.word w)
  mem_pronouns : w ∈ pronouns
  not_determines : ¬ Determines ts i
  not_demonstrates : ¬ Demonstrates ts i

/-- The first bare pronoun, with nothing in front of it that it can refer to. -/
structure Unresolved (w : String) : Prop where
  bare : Bare pronouns ts i w
  first : ∀ j < i, ∀ v, ¬ Bare pronouns ts j v
  alone : ∀ j < i, ¬ Antecedent pronouns ts j

end Places

variable {pronouns : List String} {ts : List Token} {t : Token} {i : Nat} {w : String}

/-! ## The token in front -/

theorem nextWord?_eq_some_iff {next : String} :
    nextWord? ts = some next ↔ ts[0]? = some (.word next) := by
  rcases ts with - | ⟨- | v, ts⟩ <;> simp [nextWord?]

/-- A word introduces a noun as a determiner or as a demonstrative. -/
theorem introduces_iff : introduces pronouns w ts = true ↔
    Determines (.word w :: ts) 0 ∨ w ∈ pronouns ∧ Demonstrates (.word w :: ts) 0 := by
  have hnext (next : String) : ts[0]? = some (.word next) ↔ nextWord? ts = some next :=
    nextWord?_eq_some_iff.symm
  simp only [Determines, Demonstrates, List.getElem?_cons_zero, List.getElem?_cons_succ,
    Nat.zero_add, hnext, Option.some.injEq, Token.word.injEq]
  unfold introduces
  cases nextWord? ts with
  | none => simp
  | some next => grind

theorem antecedent_word_iff :
    Antecedent pronouns (.word w :: ts) 0 ↔ introduces pronouns w ts = true := by
  rw [introduces_iff, and_comm (a := w ∈ pronouns)]
  simp [Antecedent]

theorem bare_word_iff {v : String} : Bare pronouns (.word w :: ts) 0 v ↔
    v = w ∧ w ∈ pronouns ∧ introduces pronouns w ts = false := by
  rw [Bool.eq_false_iff, ne_eq, introduces_iff, not_or, not_and]
  constructor
  · rintro ⟨hword, hmem, hdet, hdem⟩
    obtain rfl : w = v := by simpa using hword
    exact ⟨rfl, hmem, hdet, fun _ => hdem⟩
  · rintro ⟨rfl, hmem, hdet, hdem⟩
    exact ⟨rfl, hmem, hdet, hdem hmem⟩

theorem not_bare_literal {v : String} : ¬ Bare pronouns (.literal :: ts) 0 v :=
  fun h => by simpa using h.word

/-! ## Moving past the first token -/

theorem antecedent_succ_iff :
    Antecedent pronouns (t :: ts) (i + 1) ↔ Antecedent pronouns ts i := Iff.rfl

theorem bare_succ_iff : Bare pronouns (t :: ts) (i + 1) w ↔ Bare pronouns ts i w :=
  ⟨fun h => ⟨h.word, h.mem_pronouns, h.not_determines, h.not_demonstrates⟩,
    fun h => ⟨h.word, h.mem_pronouns, h.not_determines, h.not_demonstrates⟩⟩

/-- A token that is neither bare nor an antecedent has no effect on what comes after it. -/
theorem unresolved_succ_iff : Unresolved pronouns (t :: ts) (i + 1) w ↔
    (∀ v, ¬ Bare pronouns (t :: ts) 0 v) ∧ ¬ Antecedent pronouns (t :: ts) 0 ∧
      Unresolved pronouns ts i w := by
  constructor
  · rintro ⟨hbare, hfirst, halone⟩
    refine ⟨hfirst 0 (Nat.succ_pos i), halone 0 (Nat.succ_pos i), bare_succ_iff.1 hbare, ?_, ?_⟩
    · exact fun j hj v h => hfirst (j + 1) (Nat.succ_lt_succ hj) v (bare_succ_iff.2 h)
    · exact fun j hj h => halone (j + 1) (Nat.succ_lt_succ hj) (antecedent_succ_iff.2 h)
  · rintro ⟨hbare₀, halone₀, hbare, hfirst, halone⟩
    refine ⟨bare_succ_iff.2 hbare, fun j hj v => ?_, fun j hj => ?_⟩
    · cases j with
      | zero => exact hbare₀ v
      | succ j => exact fun h => hfirst j (Nat.lt_of_succ_lt_succ hj) v (bare_succ_iff.1 h)
    · cases j with
      | zero => exact halone₀
      | succ j => exact halone j (Nat.lt_of_succ_lt_succ hj)

theorem unresolved_zero_iff :
    Unresolved pronouns ts 0 w ↔ Bare pronouns ts 0 w :=
  ⟨Unresolved.bare, fun h => ⟨h, fun _ hj => absurd hj (Nat.not_lt_zero _),
    fun _ hj => absurd hj (Nat.not_lt_zero _)⟩⟩

/-- The token in front is the pronoun itself, or else leaves the search to what comes after it. -/
theorem exists_unresolved_cons_iff : (∃ i, Unresolved pronouns (t :: ts) i w) ↔
    Bare pronouns (t :: ts) 0 w ∨
      (∀ v, ¬ Bare pronouns (t :: ts) 0 v) ∧ ¬ Antecedent pronouns (t :: ts) 0 ∧
        ∃ i, Unresolved pronouns ts i w := by
  rw [← Nat.or_exists_add_one, unresolved_zero_iff]
  simp only [unresolved_succ_iff, exists_and_left]

/-! ## The search -/

/-- Once there is something to refer to, nothing is reported. -/
theorem ambiguousIn_known (pronouns : List String) (ts : List Token) :
    ambiguousIn pronouns true ts = none := by
  induction ts with
  | nil => rfl
  | cons t ts ih =>
    cases t with
    | literal => exact ih
    | word w => simp [ambiguousIn, ih]

theorem ambiguousIn_eq_some_iff :
    ambiguousIn pronouns false ts = some w ↔ ∃ i, Unresolved pronouns ts i w := by
  induction ts with
  | nil =>
    simp only [ambiguousIn, reduceCtorEq, false_iff]
    rintro ⟨i, h⟩
    simpa using h.bare.word
  | cons t ts ih =>
    rw [exists_unresolved_cons_iff]
    cases t with
    | literal =>
      have hknown : Antecedent pronouns (.literal :: ts) 0 := Or.inl rfl
      simp [ambiguousIn, ambiguousIn_known, not_bare_literal, hknown]
    | word v =>
      rw [ambiguousIn, ambiguousIn_known, ← ih]
      simp only [bare_word_iff, antecedent_word_iff]
      cases introduces pronouns v ts with
      | true => simp
      | false => by_cases hv : v ∈ pronouns <;> simp [hv, eq_comm]

/-- The pieces up to a token and after it. -/
theorem exists_append_of_getElem?_filterMap {ps : List Piece}
    (h : (ps.filterMap Piece.token?)[i]? = some t) :
    ∃ before p after, ps = before ++ p :: after ∧ p.token? = some t ∧
      before.filterMap Piece.token? = (ps.filterMap Piece.token?).take i := by
  obtain ⟨hi, hget⟩ := List.getElem?_eq_some_iff.1 h
  have hsplit : ps.filterMap Piece.token? =
      (ps.filterMap Piece.token?).take i ++ t :: (ps.filterMap Piece.token?).drop (i + 1) := by
    rw [← hget, List.getElem_cons_drop, List.take_append_drop]
  obtain ⟨before, rest, rfl, hbefore, hrest⟩ := List.filterMap_eq_append_iff.1 hsplit
  obtain ⟨skipped, p, after, rfl, hskipped, hp, -⟩ := List.filterMap_eq_cons_iff.1 hrest
  refine ⟨before ++ skipped, p, after, by simp, hp, ?_⟩
  rw [List.filterMap_append, hbefore, List.filterMap_eq_nil_iff.2 hskipped, List.append_nil]

/-- A pronoun reported is a word piece with no quotation or placeholder in front of it. -/
theorem Unresolved.exists_piece {ps : List Piece}
    (h : Unresolved pronouns (ps.filterMap Piece.token?) i w) :
    ∃ before first parts after, ps = before ++ .word first parts :: after ∧
      w = lowerWord (first :: parts) ∧ ∀ p ∈ before, ¬ p.IsLiteral := by
  obtain ⟨before, p, after, hps, hp, hbefore⟩ := exists_append_of_getElem?_filterMap h.bare.word
  cases p with
  | word first parts =>
    refine ⟨before, first, parts, after, hps, ?_, fun p hmem hlit => ?_⟩
    · have hw : Token.word (lowerWord (first :: parts)) = .word w := Option.some.inj hp
      exact (Token.word.inj hw).symm
    · have hliteral : Token.literal ∈ (ps.filterMap Piece.token?).take i := by
        rw [← hbefore]
        exact List.mem_filterMap.2 ⟨p, hmem, hlit.token?_eq⟩
      obtain ⟨j, hj, hget⟩ := List.mem_take_iff_getElem.1 hliteral
      have hjlt : j < i := Nat.lt_of_lt_of_le hj (Nat.min_le_left ..)
      exact h.alone j hjlt (Or.inl (List.getElem?_eq_some_iff.2 ⟨_, hget⟩))
  | quotation | placeholder | between => cases hp

/-- **The ambiguous pronoun of a step.** The body of a step is cut into pieces in exactly one way.
Among the tokens of those pieces, the pronoun reported is the first bare one, provided no token in
front of it is a literal, a determiner with a word after it, or a demonstrative among the pronouns
with a word after it that is no auxiliary; otherwise none is reported. It is one of the pronouns
that are looked for, and a word of its own with no quotation or placeholder in front of it. -/
theorem ambiguousPronoun?_eq_some_iff_unresolved (pronouns : List String) (step : String) :
    ∃ ps, (∀ qs, Cut (bodyChars step) qs ↔ qs = ps) ∧
      (∀ w, ambiguousPronoun? pronouns step = some w ↔
        ∃ i, Unresolved pronouns (ps.filterMap Piece.token?) i w) ∧
      ∀ w, ambiguousPronoun? pronouns step = some w → w ∈ pronouns ∧
        ∃ before first parts after, ps = before ++ .word first parts :: after ∧
          w = lowerWord (first :: parts) ∧ ∀ p ∈ before, ¬ p.IsLiteral := by
  obtain ⟨ps, hcut⟩ := exists_cut (bodyChars step)
  have hfound (w : String) : ambiguousPronoun? pronouns step = some w ↔
      ∃ i, Unresolved pronouns (ps.filterMap Piece.token?) i w := by
    rw [ambiguousPronoun?, hcut.tokens_eq, ambiguousIn_eq_some_iff]
  refine ⟨ps, fun qs => ⟨hcut.unique, ?_⟩, hfound, fun w hw => ?_⟩
  · rintro rfl
    exact hcut
  · obtain ⟨i, h⟩ := (hfound w).1 hw
    exact ⟨h.bare.mem_pronouns, h.exists_piece⟩

/-- A demonstrative in front of a noun is what the pronoun after it refers to, and a demonstrative
in front of an auxiliary is the pronoun itself. -/
example : ambiguousPronoun? ["it", "that"] "Then that page shows it" = none ∧
    ambiguousPronoun? ["it", "that"] "Then that is \"it\"" = some "that" := by decide

end FeatureAudit.Step
