import Mathlib.Data.List.Zip
import FeatureAudit.Step.Conjunction
import FeatureAudit.Step.Pronoun
import FeatureAudit.Proofs.Step.Keyword
import FeatureAudit.Proofs.Step.Words
import FeatureAudit.Proofs.Text.Blank

/-!
# What stands in quotation marks is not looked at

Two texts are requoted if they differ in nothing but the contents of their quotations. The relation
is kept by everything that leads from a step to its words: trimming, dropping the keyword, cutting
into tokens, and putting a space in place of each quotation. Neither the joining conjunction nor the
ambiguous pronoun of a step depends on the contents of its quotations (`quotations_not_analysed`).
-/

set_option autoImplicit false

namespace FeatureAudit.Step

/-- A character that begins neither a quotation nor a placeholder. -/
def isPlain (c : Char) : Bool := !isQuote c && c != '<'

/-- Two texts with the same characters outside their quotations. -/
inductive Requoted : List Char → List Char → Prop where
  /-- Texts that are used up. -/
  | nil : Requoted [] []
  /-- The same character in front of both. -/
  | plain {c : Char} {cs ds : List Char} (hc : isPlain c = true) (h : Requoted cs ds) :
      Requoted (c :: cs) (c :: ds)
  /-- A quotation in front of each, whatever is in it. -/
  | quotation {q r cs ds : List Char} (hq : '\x22' ∉ q) (hr : '\x22' ∉ r) (h : Requoted cs ds) :
      Requoted ('\x22' :: (q ++ '\x22' :: cs)) ('\x22' :: (r ++ '\x22' :: ds))

variable {c : Char} {cs ds : List Char}

/-! ## What a search finds -/

theorem not_isQuote_of_isPlain (hc : isPlain c = true) : isQuote c = false := by
  simpa using (Bool.and_eq_true_iff.1 hc).1

theorem afterQuotation?_plain (hc : isPlain c = true) (cs : List Char) :
    afterQuotation? (c :: cs) = none := by
  rw [Option.eq_none_iff_forall_ne_some]
  intro rest h
  obtain ⟨q, inner, hquote, -, heq⟩ := afterQuotation?_eq_some_iff.1 h
  obtain ⟨rfl, -⟩ := List.cons.inj heq
  exact absurd hquote (Bool.eq_false_iff.1 (not_isQuote_of_isPlain hc))

theorem afterLiteral?_plain (hc : isPlain c = true) (cs : List Char) :
    afterLiteral? (c :: cs) = none := by
  rw [Option.eq_none_iff_forall_ne_some]
  intro rest h
  rcases afterLiteral?_eq_some_iff.1 h with hq | hp
  · rw [afterQuotation?_plain hc] at hq
    cases hq
  · obtain ⟨inner, -, -, heq⟩ := afterPlaceholder?_eq_some_iff.1 hp
    obtain ⟨rfl, -⟩ := List.cons.inj heq
    exact absurd hc (by decide)

theorem afterQuotation?_quotation {q : List Char} (hq : '\x22' ∉ q) (cs : List Char) :
    afterQuotation? ('\x22' :: (q ++ '\x22' :: cs)) = some cs :=
  afterQuotation?_eq_some_iff.2 ⟨'\x22', q, rfl, hq, rfl⟩

theorem afterLiteral?_quotation {q : List Char} (hq : '\x22' ∉ q) (cs : List Char) :
    afterLiteral? ('\x22' :: (q ++ '\x22' :: cs)) = some cs :=
  afterLiteral?_eq_some_iff.2 (Or.inl (afterQuotation?_quotation hq cs))

namespace Requoted

/-! ## Trimming -/

/-- A run of characters that a quote ends is the same in both texts, and what follows it is
requoted. -/
theorem run {p : Char → Bool} (hp : p '\x22' = false) (h : Requoted cs ds) :
    cs.takeWhile p = ds.takeWhile p ∧ Requoted (cs.dropWhile p) (ds.dropWhile p) := by
  induction h with
  | nil => exact ⟨rfl, nil⟩
  | @plain c cs ds hc h ih =>
    cases hpc : p c with
    | true => simp [hpc, ih.1, ih.2]
    | false => simp [hpc, plain hc h]
  | quotation hq hr h => simp [hp, quotation hq hr h]

theorem eq_nil_iff (h : Requoted cs ds) : cs = [] ↔ ds = [] := by
  cases h <;> simp

theorem trimEnd (h : Requoted cs ds) : Requoted (Text.trimEnd cs) (Text.trimEnd ds) := by
  have hquote : Text.isBlank '\x22' = false := by decide
  induction h with
  | nil => exact nil
  | @plain c cs ds hc h ih =>
    rw [Text.trimEnd_cons c cs, Text.trimEnd_cons c ds]
    by_cases hnil : Text.trimEnd cs = []
    · rw [if_pos hnil, if_pos (ih.eq_nil_iff.1 hnil)]
      cases hblank : Text.isBlank c with
      | true => simpa [Text.trimEnd, hblank] using nil
      | false => simpa [Text.trimEnd, hblank] using plain hc nil
    · rw [if_neg hnil, if_neg fun hnil' => hnil (ih.eq_nil_iff.2 hnil')]
      exact plain hc ih
  | @quotation q r cs ds hq hr h ih =>
    rw [← List.cons_append, ← List.cons_append, Text.trimEnd_append_cons hquote,
      Text.trimEnd_append_cons hquote]
    exact quotation hq hr ih

theorem trimChars (h : Requoted cs ds) : Requoted (Text.trimChars cs) (Text.trimChars ds) :=
  (h.run (p := Text.isBlank) (by decide)).2.trimEnd

/-! ## The keyword -/

/-- The first words of both texts are the same and belong to no quotation, or else both have a
quote in them. -/
theorem head (h : Requoted cs ds) :
    (∃ w, (cs.takeWhile fun c => c != ' ') = w ∧ (ds.takeWhile fun c => c != ' ') = w ∧
        Requoted (cs.drop w.length) (ds.drop w.length)) ∨
      ('\x22' ∈ cs.takeWhile fun c => c != ' ') ∧ '\x22' ∈ ds.takeWhile fun c => c != ' ' := by
  induction h with
  | nil => exact Or.inl ⟨[], rfl, rfl, nil⟩
  | @plain c cs ds hc h ih =>
    by_cases hspace : c = ' '
    · exact Or.inl ⟨[], by simp [hspace], by simp [hspace], plain hc h⟩
    · rcases ih with ⟨w, hcs, hds, hrest⟩ | ⟨hcs, hds⟩
      · exact Or.inl ⟨c :: w, by simp [hspace, hcs], by simp [hspace, hds], hrest⟩
      · exact Or.inr ⟨by simp [hspace, hcs], by simp [hspace, hds]⟩
  | quotation => exact Or.inr ⟨by simp, by simp⟩

/-- A word with a quote in it has no role. -/
theorem role?_eq_none_of_quote {w : List Char} (hw : '\x22' ∈ w) :
    role? (Text.lower (String.ofList w)) = none := by
  have hwords : ∀ w ∈ ["given", "when", "then", "and", "but", "*"], '\x22' ∉ w.toList := by decide
  exact role?_lower_eq_none hw (by decide +kernel) fun word hrole =>
    hwords word (mem_of_role? hrole)

/-- The bodies of requoted steps are requoted. -/
theorem bodyChars {s t : String} (h : Requoted s.toList t.toList) :
    Requoted (bodyChars s) (bodyChars t) := by
  have htrim := h.trimChars
  have hempty : ∀ step : String, '\x22' ∈ headWord step → (keyword step).length = 0 := by
    intro step hmem
    rw [keyword, roleOf, role?_eq_none_of_quote hmem]
    rfl
  have hdrop : Requoted ((Text.trimChars s.toList).drop (keyword s).length)
      ((Text.trimChars t.toList).drop (keyword t).length) := by
    rcases htrim.head with ⟨w, hs, ht, hrest⟩ | ⟨hs, ht⟩
    · have hkeyword : keyword s = keyword t := by
        rw [keyword, keyword, roleOf, roleOf, headWord, headWord, hs, ht]
      rw [← hkeyword]
      have hlength : (keyword s).length = w.length ∨ (keyword s).length = 0 := by
        unfold keyword
        split
        · exact Or.inl (by rw [headWord, hs, String.length_ofList])
        · exact Or.inr rfl
      rcases hlength with hlen | hlen
      · rwa [hlen]
      · rwa [hlen, List.drop_zero, List.drop_zero]
    · rwa [hempty s hs, hempty t ht, List.drop_zero, List.drop_zero]
  exact hdrop.trimChars

/-! ## Words -/

/-- Requoted texts have the same tokens. -/
theorem tokens_eq (h : Requoted cs ds) : tokens cs = tokens ds := by
  -- a word is passed over in one step, so that the induction is on the length
  induction hn : cs.length using Nat.strong_induction_on generalizing cs ds with
  | _ n ih =>
    cases h with
    | nil => rfl
    | @plain c cs ds hc h =>
      have hrun := h.run (p := isWordPart) (by decide)
      have hword := (List.dropWhile_suffix isWordPart (l := cs)).length_le
      rw [List.length_cons] at hn
      rw [tokens_cons, tokens_cons, afterLiteral?_plain hc, afterLiteral?_plain hc]
      simp only [hrun.1, ih _ (by omega) hrun.2 rfl, ih _ (by omega) h rfl]
    | @quotation q r cs ds hq hr h =>
      have hlt : cs.length < n := by
        rw [← hn, List.length_cons, List.length_append, List.length_cons]
        omega
      rw [tokens_cons, tokens_cons, afterLiteral?_quotation hq, afterLiteral?_quotation hr]
      simp only [ih _ hlt h rfl]

/-- Requoted texts are the same once something stands in place of their quotations. -/
theorem substitute_eq (h : Requoted cs ds) (fill : List Char) :
    substitute afterQuotation? fill cs = substitute afterQuotation? fill ds := by
  induction h with
  | nil => rfl
  | plain hc h ih =>
    rw [substitute_cons shrinks_afterQuotation?, substitute_cons shrinks_afterQuotation?,
      afterQuotation?_plain hc, afterQuotation?_plain hc]
    simp only [ih]
  | quotation hq hr h ih =>
    rw [substitute_cons shrinks_afterQuotation?, substitute_cons shrinks_afterQuotation?,
      afterQuotation?_quotation hq, afterQuotation?_quotation hr]
    simp only [ih]

theorem joiningConjunction?_eq {s t : String} (h : Requoted s.toList t.toList)
    (conjunctions : List String) :
    joiningConjunction? conjunctions s = joiningConjunction? conjunctions t := by
  rw [joiningConjunction?, joiningConjunction?, clauseWords, clauseWords,
    h.bodyChars.substitute_eq]

theorem ambiguousPronoun?_eq {s t : String} (h : Requoted s.toList t.toList)
    (pronouns : List String) : ambiguousPronoun? pronouns s = ambiguousPronoun? pronouns t := by
  rw [ambiguousPronoun?, ambiguousPronoun?, h.bodyChars.tokens_eq]

end Requoted

/-! ## Steps with quotations -/

/-- A text with quotations in it: each has its contents and the text that follows it. -/
def withQuotations (opening : List Char) : List (List Char × List Char) → List Char
  | [] => opening
  | (contents, next) :: spans =>
    opening ++ '\x22' :: (contents ++ '\x22' :: withQuotations next spans)

theorem Requoted.append {u : List Char} (hu : ∀ c ∈ u, isPlain c = true) (h : Requoted cs ds) :
    Requoted (u ++ cs) (u ++ ds) := by
  induction u with
  | nil => exact h
  | cons c u ih =>
    exact plain (hu c (List.mem_cons_self ..)) (ih fun d hd => hu d (List.mem_cons_of_mem c hd))

/-- Other contents for the quotations of a text make a requoted text. -/
theorem requoted_withQuotations {opening : List Char} {spans : List (List Char × List Char)}
    {contents : List (List Char)} (hopening : ∀ c ∈ opening, isPlain c = true)
    (hspans : ∀ span ∈ spans, '\x22' ∉ span.1 ∧ ∀ c ∈ span.2, isPlain c = true)
    (hlength : contents.length = spans.length) (hcontents : ∀ q ∈ contents, '\x22' ∉ q) :
    Requoted (withQuotations opening spans)
      (withQuotations opening (contents.zip (spans.map Prod.snd))) := by
  induction spans generalizing opening contents with
  | nil =>
    obtain rfl : contents = [] := List.length_eq_zero_iff.1 hlength
    simpa [withQuotations] using Requoted.nil.append hopening
  | cons span spans ih =>
    obtain ⟨r, contents, rfl⟩ : ∃ r rs, contents = r :: rs :=
      List.exists_cons_of_length_eq_add_one hlength
    obtain ⟨hq, hnext⟩ := hspans span (List.mem_cons_self ..)
    have hr := hcontents r (List.mem_cons_self ..)
    have hrest := ih hnext (fun s hs => hspans s (List.mem_cons_of_mem span hs))
      (Nat.succ.inj hlength) fun q hmem => hcontents q (List.mem_cons_of_mem r hmem)
    exact (Requoted.quotation hq hr hrest).append hopening

/-- **Quoted text is not analysed.** Take a step in which no quote and no `<` stands outside its
quotations in double quotes. With any other contents of the quotations it has the same joining
conjunction and the same ambiguous pronoun, whatever conjunctions and pronouns are looked for. -/
theorem quotations_not_analysed {opening : List Char} {spans : List (List Char × List Char)}
    {contents : List (List Char)} (hopening : ∀ c ∈ opening, isPlain c = true)
    (hspans : ∀ span ∈ spans, '\x22' ∉ span.1 ∧ ∀ c ∈ span.2, isPlain c = true)
    (hlength : contents.length = spans.length) (hcontents : ∀ q ∈ contents, '\x22' ∉ q)
    (conjunctions pronouns : List String) :
    let step := String.ofList (withQuotations opening spans)
    let changed := String.ofList (withQuotations opening (contents.zip (spans.map Prod.snd)))
    joiningConjunction? conjunctions changed = joiningConjunction? conjunctions step ∧
      ambiguousPronoun? pronouns changed = ambiguousPronoun? pronouns step := by
  intro step changed
  have h : Requoted step.toList changed.toList := by
    rw [String.toList_ofList, String.toList_ofList]
    exact requoted_withQuotations hopening hspans hlength hcontents
  exact ⟨(h.joiningConjunction?_eq conjunctions).symm, (h.ambiguousPronoun?_eq pronouns).symm⟩

/-- The quotations of a step, each with the text that follows it. -/
def saving : List (List Char × List Char) :=
  [("Save".toList, " and see ".toList), ("it".toList, " there".toList)]

/-- Other contents, among them words, quotes and brackets. -/
def undoing : List (List Char) := ["it and they're".toList, "<undo and see>".toList]

theorem quotations_not_analysed_saving :
    (∀ c ∈ "Then I press ".toList, isPlain c = true) ∧
      (∀ span ∈ saving, '\x22' ∉ span.1 ∧ ∀ c ∈ span.2, isPlain c = true) ∧
      undoing.length = saving.length ∧ (∀ q ∈ undoing, '\x22' ∉ q) ∧
      let step := String.ofList (withQuotations "Then I press ".toList saving)
      let changed := String.ofList
        (withQuotations "Then I press ".toList (undoing.zip (saving.map Prod.snd)))
      joiningConjunction? ["and"] changed = joiningConjunction? ["and"] step ∧
        ambiguousPronoun? ["it"] changed = ambiguousPronoun? ["it"] step := by
  have hopening : ∀ c ∈ "Then I press ".toList, isPlain c = true := by decide
  have hspans : ∀ span ∈ saving, '\x22' ∉ span.1 ∧ ∀ c ∈ span.2, isPlain c = true := by decide
  have hcontents : ∀ q ∈ undoing, '\x22' ∉ q := by decide
  exact ⟨hopening, hspans, rfl, hcontents,
    quotations_not_analysed hopening hspans rfl hcontents ["and"] ["it"]⟩

end FeatureAudit.Step
