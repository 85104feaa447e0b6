import FeatureAudit.Proofs.Step.Words

/-!
# A text cut into pieces

Every text is cut in exactly one way into quotations, placeholders, words and single characters
between them (`exists_cut`, `Cut.unique`): a quotation or placeholder stands wherever one can begin,
a word is as long as it can be, and all else is passed over. The tokens of the text are those of its
pieces (`Cut.tokens_eq`).
-/

set_option autoImplicit false

namespace FeatureAudit.Step

/-- A piece of a text. -/
inductive Piece where
  /-- A text between two quotes of one kind. -/
  | quotation (quote : Char) (inner : List Char)
  /-- A text between angle brackets. -/
  | placeholder (inner : List Char)
  /-- A word, from its first letter on. -/
  | word (first : Char) (parts : List Char)
  /-- A character that belongs to none of these. -/
  | between (c : Char)
  deriving DecidableEq, Repr

namespace Piece

/-- The characters of a piece. -/
def chars : Piece → List Char
  | quotation q inner => q :: (inner ++ [q])
  | placeholder inner => '<' :: (inner ++ ['>'])
  | word first parts => first :: parts
  | between c => [c]

/-- The token that a piece stands for. -/
def token? : Piece → Option Token
  | quotation _ _ | placeholder _ => some .literal
  | word first parts => some (.word (lowerWord (first :: parts)))
  | between _ => none

/-- Whether a piece is a quotation that ends at its second quote, or a placeholder with something
in it. -/
def IsLiteral : Piece → Prop
  | quotation q inner => isQuote q = true ∧ q ∉ inner
  | placeholder inner => inner ≠ [] ∧ ∀ c ∈ inner, isAngle c = false
  | word _ _ | between _ => False

/-- Whether a piece is the first of the text that it makes with what follows it. -/
def Fits (rest : List Char) : Piece → Prop
  | quotation q inner => (quotation q inner).IsLiteral
  | placeholder inner => (placeholder inner).IsLiteral
  | word first parts => isLetter first = true ∧ (∀ c ∈ parts, isWordPart c = true) ∧
      ∀ c ∈ rest.head?, isWordPart c = false
  | between c => isLetter c = false ∧ ∀ p : Piece, p.IsLiteral → ¬ p.chars <+: c :: rest

end Piece

/-- The pieces of a text, one after the other. -/
inductive Cut : List Char → List Piece → Prop where
  /-- A text that is used up. -/
  | nil : Cut [] []
  /-- A piece in front of what is cut already. -/
  | cons {p : Piece} {rest : List Char} {ps : List Piece} (first : p.Fits rest)
      (more : Cut rest ps) : Cut (p.chars ++ rest) (p :: ps)

variable {p q : Piece} {cs rest rest' : List Char} {ps qs : List Piece}

/-! ## The first piece -/

/-- What a search finds at the beginning of a text is a quotation or a placeholder. -/
theorem afterLiteral?_eq_some_iff_piece :
    afterLiteral? cs = some rest ↔ ∃ p : Piece, p.IsLiteral ∧ cs = p.chars ++ rest := by
  rw [afterLiteral?_eq_some_iff, afterQuotation?_eq_some_iff, afterPlaceholder?_eq_some_iff]
  constructor
  · rintro (⟨q, inner, hquote, hnot, rfl⟩ | ⟨inner, hne, hinner, rfl⟩)
    · exact ⟨.quotation q inner, ⟨hquote, hnot⟩, by simp [Piece.chars]⟩
    · exact ⟨.placeholder inner, ⟨hne, hinner⟩, by simp [Piece.chars]⟩
  · rintro ⟨p, hp, rfl⟩
    cases p with
    | quotation q inner => exact Or.inl ⟨q, inner, hp.1, hp.2, by simp [Piece.chars]⟩
    | placeholder inner => exact Or.inr ⟨inner, hp.1, hp.2, by simp [Piece.chars]⟩
    | word | between => exact hp.elim

theorem afterLiteral?_chars (hp : p.IsLiteral) (rest : List Char) :
    afterLiteral? (p.chars ++ rest) = some rest :=
  afterLiteral?_eq_some_iff_piece.2 ⟨p, hp, rfl⟩

theorem afterLiteral?_eq_none_iff :
    afterLiteral? cs = none ↔ ∀ p : Piece, p.IsLiteral → ¬ p.chars <+: cs := by
  simp only [Option.eq_none_iff_forall_ne_some, ne_eq, afterLiteral?_eq_some_iff_piece, not_exists,
    not_and]
  exact ⟨fun h p hp ⟨rest, heq⟩ => h rest p hp heq.symm,
    fun h rest p hp heq => h p hp ⟨rest, heq.symm⟩⟩

/-- A letter begins neither a quotation nor a placeholder. -/
theorem afterLiteral?_letter {c : Char} (hc : isLetter c = true) (cs : List Char) :
    afterLiteral? (c :: cs) = none := by
  rw [afterLiteral?_eq_none_iff]
  rintro (⟨q, inner⟩ | ⟨inner⟩ | ⟨first, parts⟩ | ⟨d⟩) hp ⟨rest, heq⟩
  · obtain ⟨rfl, -⟩ := List.cons.inj heq
    have hquote : q = '\x22' ∨ q = '\x27' := by simpa [isQuote] using hp.1
    rcases hquote with rfl | rfl <;> exact absurd hc (by decide)
  · obtain ⟨rfl, -⟩ := List.cons.inj heq
    exact absurd hc (by decide)
  · exact hp.elim
  · exact hp.elim

theorem Piece.IsLiteral.fits (hp : p.IsLiteral) (rest : List Char) : p.Fits rest := by
  cases p with
  | quotation | placeholder => exact hp
  | word | between => exact hp.elim

theorem Piece.IsLiteral.token?_eq (hp : p.IsLiteral) : p.token? = some .literal := by
  cases p with
  | quotation | placeholder => rfl
  | word | between => exact hp.elim

/-- A piece that fits is a quotation or placeholder, a word, or a single character. -/
theorem Piece.Fits.cases (h : p.Fits rest) :
    p.IsLiteral ∨ (∃ first parts, p = .word first parts) ∨ ∃ c, p = .between c := by
  cases p with
  | quotation | placeholder => exact Or.inl h
  | word first parts => exact Or.inr (Or.inl ⟨first, parts, rfl⟩)
  | between c => exact Or.inr (Or.inr ⟨c, rfl⟩)

/-- The longest run of word characters is the word that fits. -/
theorem Piece.Fits.run {first : Char} {parts : List Char} (h : (word first parts).Fits rest) :
    (parts ++ rest).takeWhile isWordPart = parts ∧ (parts ++ rest).dropWhile isWordPart = rest := by
  obtain ⟨-, hparts, hnext⟩ := h
  rw [List.takeWhile_append_of_pos hparts, List.dropWhile_append_of_pos hparts]
  cases rest with
  | nil => simp
  | cons c rest => simp [hnext c rfl]

/-- Every text that is not used up begins with a piece that fits. -/
theorem exists_fits (c : Char) (cs : List Char) :
    ∃ (p : Piece) (rest : List Char), p.Fits rest ∧ c :: cs = p.chars ++ rest := by
  cases h : afterLiteral? (c :: cs) with
  | some rest =>
    obtain ⟨p, hp, heq⟩ := afterLiteral?_eq_some_iff_piece.1 h
    exact ⟨p, rest, hp.fits rest, heq⟩
  | none =>
    cases hc : isLetter c with
    | true =>
      refine ⟨.word c (cs.takeWhile isWordPart), cs.dropWhile isWordPart,
        ⟨hc, fun _ => List.mem_takeWhile_imp, ?_⟩, ?_⟩
      · intro d hd
        have hnot := List.head?_dropWhile_not isWordPart cs
        rw [Option.mem_def.1 hd] at hnot
        exact hnot
      · simp [Piece.chars, List.takeWhile_append_dropWhile]
    | false => exact ⟨.between c, cs, ⟨hc, afterLiteral?_eq_none_iff.1 h⟩, rfl⟩

/-- A text gives the token of its first piece in front of the tokens of the rest. -/
theorem Piece.Fits.tokens_eq (h : p.Fits rest) :
    tokens (p.chars ++ rest) = p.token?.toList ++ tokens rest := by
  rcases h.cases with hp | ⟨first, parts, rfl⟩ | ⟨c, rfl⟩
  · obtain ⟨c, cs, heq⟩ : ∃ c cs, p.chars ++ rest = c :: cs := by
      cases p <;> exact ⟨_, _, rfl⟩
    rw [heq, tokens_cons, ← heq, afterLiteral?_chars hp, hp.token?_eq]
    rfl
  · rw [Piece.chars, List.cons_append, tokens_cons, afterLiteral?_letter h.1, if_pos h.1, h.run.1,
      h.run.2]
    rfl
  · rw [Piece.chars, List.singleton_append, tokens_cons, afterLiteral?_eq_none_iff.2 h.2,
      if_neg (Bool.eq_false_iff.1 h.1)]
    rfl

/-! ## One way to cut -/

/-- Quotations and placeholders are told by their characters. -/
theorem Piece.IsLiteral.eq_of_chars (hp : p.IsLiteral) (hq : q.IsLiteral)
    (h : p.chars = q.chars) : p = q := by
  have hopening : isQuote '<' = false := by decide
  cases p with
  | quotation q₁ inner₁ =>
    cases q with
    | quotation q₂ inner₂ =>
      obtain ⟨rfl, hinner⟩ := List.cons.inj h
      rw [List.append_cancel_right hinner]
    | placeholder inner₂ =>
      obtain ⟨rfl, -⟩ := List.cons.inj h
      exact absurd hp.1 (Bool.eq_false_iff.1 hopening)
    | word | between => exact hq.elim
  | placeholder inner₁ =>
    cases q with
    | quotation q₂ inner₂ =>
      obtain ⟨rfl, -⟩ := List.cons.inj h
      exact absurd hq.1 (Bool.eq_false_iff.1 hopening)
    | placeholder inner₂ =>
      obtain ⟨-, hinner⟩ := List.cons.inj h
      rw [List.append_cancel_right hinner]
    | word | between => exact hq.elim
  | word | between => exact hp.elim

/-- A piece that fits is a literal exactly if a literal is found where it stands. -/
theorem Piece.Fits.isLiteral_iff (h : p.Fits rest) :
    p.IsLiteral ↔ (afterLiteral? (p.chars ++ rest)).isSome = true := by
  constructor
  · intro hp
    rw [afterLiteral?_chars hp]
    rfl
  · rcases h.cases with hp | ⟨first, parts, rfl⟩ | ⟨c, rfl⟩
    · exact fun _ => hp
    · rw [chars, List.cons_append, afterLiteral?_letter h.1]
      simp
    · rw [chars, List.singleton_append, afterLiteral?_eq_none_iff.2 h.2]
      simp

/-- A text has one first piece. -/
theorem Piece.Fits.unique (hp : p.Fits rest) (hq : q.Fits rest')
    (h : p.chars ++ rest = q.chars ++ rest') : p = q ∧ rest = rest' := by
  have hsame : p.IsLiteral ↔ q.IsLiteral := by rw [hp.isLiteral_iff, hq.isLiteral_iff, h]
  rcases hp.cases with hlit | ⟨first, parts, rfl⟩ | ⟨c, rfl⟩
  · have hrest : some rest = some rest' := by
      rw [← afterLiteral?_chars hlit, h, afterLiteral?_chars (hsame.1 hlit)]
    obtain rfl : rest = rest' := Option.some.inj hrest
    exact ⟨hlit.eq_of_chars (hsame.1 hlit) (List.append_cancel_right h), rfl⟩
  · rcases hq.cases with hlit | ⟨first', parts', rfl⟩ | ⟨c', rfl⟩
    · exact (hsame.2 hlit).elim
    · simp only [chars, List.cons_append, List.cons.injEq] at h
      obtain ⟨rfl, htail⟩ := h
      have hrun := hp.run
      rw [htail, hq.run.1, hq.run.2] at hrun
      exact ⟨by rw [hrun.1], hrun.2.symm⟩
    · obtain ⟨rfl, -⟩ := List.cons.inj h
      exact absurd hp.1 (Bool.eq_false_iff.1 hq.1)
  · rcases hq.cases with hlit | ⟨first', parts', rfl⟩ | ⟨c', rfl⟩
    · exact (hsame.2 hlit).elim
    · obtain ⟨rfl, -⟩ := List.cons.inj h
      exact absurd hq.1 (Bool.eq_false_iff.1 hp.1)
    · obtain ⟨rfl, htail⟩ := List.cons.inj h
      exact ⟨rfl, htail⟩

theorem Piece.chars_ne_nil (p : Piece) : p.chars ≠ [] := by
  cases p <;> exact List.cons_ne_nil _ _

/-- Every text can be cut. -/
theorem exists_cut (cs : List Char) : ∃ ps, Cut cs ps := by
  -- a piece has a character at least, so that what follows it is shorter
  induction hn : cs.length using Nat.strong_induction_on generalizing cs with
  | _ n ih =>
    cases cs with
    | nil => exact ⟨[], Cut.nil⟩
    | cons c cs =>
      obtain ⟨p, rest, hfits, heq⟩ := exists_fits c cs
      have hlt : rest.length < n := by
        have hpos := List.length_pos_iff.2 p.chars_ne_nil
        rw [← hn, heq, List.length_append]
        omega
      obtain ⟨ps, hps⟩ := ih rest.length hlt rest rfl
      exact ⟨p :: ps, heq ▸ Cut.cons hfits hps⟩

/-- A text can be cut in one way only. -/
theorem Cut.unique (hp : Cut cs ps) (hq : Cut cs qs) : qs = ps := by
  induction hp generalizing qs with
  | nil =>
    generalize hcs : ([] : List Char) = cs at hq
    cases hq with
    | nil => rfl
    | @cons q rest qs first more =>
      exact absurd (List.append_eq_nil_iff.1 hcs.symm).1 q.chars_ne_nil
  | @cons p rest ps first more ih =>
    generalize hcs : p.chars ++ rest = cs at hq
    cases hq with
    | nil => exact absurd (List.append_eq_nil_iff.1 hcs).1 p.chars_ne_nil
    | @cons q rest' qs first' more' =>
      obtain ⟨rfl, rfl⟩ := first.unique first' hcs
      rw [ih more']

/-- The tokens of a text are those of its pieces. -/
theorem Cut.tokens_eq (h : Cut cs ps) : tokens cs = ps.filterMap Piece.token? := by
  induction h with
  | nil => rfl
  | @cons p rest ps first more ih =>
    rw [first.tokens_eq, ih]
    cases hp : p.token? with
    | none => rw [List.filterMap_cons_none hp]; rfl
    | some t => rw [List.filterMap_cons_some hp]; rfl

end FeatureAudit.Step
