import Mathlib.Data.List.TakeWhile
import FeatureAudit.Step.Words

/-!
# What stands at the beginning of a text

A quotation, a placeholder or a word is found at the beginning of a text exactly if the text begins
with one (`afterQuotation?_eq_some_iff`, `afterPlaceholder?_eq_some_iff`), and finding it leaves a
shorter text. Tokens and substitutions therefore go through a text from left to right, whatever
bounds their steps (`tokens_cons`, `substitute_cons`).
-/

set_option autoImplicit false

namespace FeatureAudit.Step

/-- A double or a single quote. -/
def isQuote (c : Char) : Bool := c == '\x22' || c == '\x27'

variable {cs rest : List Char} {after? : List Char → Option (List Char)} {fill : List Char}

/-! ## Quotations and placeholders -/

/-- A run of characters that ends at the first character of another kind. -/
theorem span_eq_iff {p : Char → Bool} {inner : List Char} {c : Char} (hc : p c = false) :
    cs.takeWhile p = inner ∧ cs.dropWhile p = c :: rest ↔
      (∀ d ∈ inner, p d = true) ∧ cs = inner ++ c :: rest := by
  constructor
  · rintro ⟨rfl, hdrop⟩
    exact ⟨fun _ => List.mem_takeWhile_imp, by rw [← hdrop, List.takeWhile_append_dropWhile]⟩
  · rintro ⟨hinner, rfl⟩
    rw [List.takeWhile_append_of_pos hinner, List.dropWhile_append_of_pos hinner]
    simp [hc]

theorem afterQuote?_eq_some_iff {q : Char} :
    afterQuote? q cs = some rest ↔ ∃ inner, q ∉ inner ∧ cs = inner ++ q :: rest := by
  have hspan {inner : List Char} :
      cs.takeWhile (fun c => c != q) = inner ∧ cs.dropWhile (fun c => c != q) = q :: rest ↔
        q ∉ inner ∧ cs = inner ++ q :: rest := by
    rw [span_eq_iff (by simp)]
    simp only [bne_iff_ne, List.forall_mem_ne']
  simp only [← hspan, exists_eq_left', afterQuote?]
  cases h : cs.dropWhile fun c => c != q with
  | nil => simp
  | cons c ds =>
    have hc : c = q := by
      have hnot := List.head?_dropWhile_not (fun c => c != q) cs
      simpa [h] using hnot
    simp [hc]

theorem afterQuotation?_eq_some_iff : afterQuotation? cs = some rest ↔
    ∃ q inner, isQuote q = true ∧ q ∉ inner ∧ cs = q :: (inner ++ q :: rest) := by
  cases cs with
  | nil => simp [afterQuotation?]
  | cons c cs =>
    cases hq : isQuote c with
    | false =>
      have hnone : afterQuotation? (c :: cs) = none := if_neg (by simpa [isQuote] using hq)
      rw [hnone]
      simp only [reduceCtorEq, false_iff]
      rintro ⟨q, inner, hquote, -, heq⟩
      obtain ⟨rfl, -⟩ := List.cons.inj heq
      exact Bool.false_ne_true (hq.symm.trans hquote)
    | true =>
      have hafter : afterQuotation? (c :: cs) = afterQuote? c cs :=
        if_pos (by simpa [isQuote] using hq)
      rw [hafter, afterQuote?_eq_some_iff]
      constructor
      · rintro ⟨inner, hnot, rfl⟩
        exact ⟨c, inner, hq, hnot, rfl⟩
      · rintro ⟨q, inner, -, hnot, heq⟩
        obtain ⟨rfl, htail⟩ := List.cons.inj heq
        exact ⟨inner, hnot, htail⟩

theorem afterPlaceholder?_eq_some_iff : afterPlaceholder? cs = some rest ↔
    ∃ inner, inner ≠ [] ∧ (∀ c ∈ inner, isAngle c = false) ∧
      cs = '<' :: (inner ++ '>' :: rest) := by
  have hspan {ds inner : List Char} :
      ds.takeWhile (fun c => !isAngle c) = inner ∧
          ds.dropWhile (fun c => !isAngle c) = '>' :: rest ↔
        (∀ c ∈ inner, isAngle c = false) ∧ ds = inner ++ '>' :: rest := by
    rw [span_eq_iff (by decide)]
    simp only [Bool.not_eq_true']
  fun_cases afterPlaceholder? cs with
  | case1 ds d inner ds' hdrop htake =>
    simp only [Option.some.injEq, List.cons.injEq, true_and, ← hspan, htake, hdrop]
    constructor
    · rintro rfl
      exact ⟨d :: inner, List.cons_ne_nil d inner, rfl, rfl⟩
    · rintro ⟨-, -, -, hrest⟩
      exact hrest
  | case2 ds hnone =>
    simp only [reduceCtorEq, List.cons.injEq, true_and, ← hspan, false_iff]
    rintro ⟨inner, hne, htake, hdrop⟩
    obtain ⟨d, inner, rfl⟩ := List.exists_cons_of_ne_nil hne
    exact hnone d inner rest htake hdrop
  | case3 ds hother =>
    simp only [reduceCtorEq, false_iff]
    rintro ⟨inner, -, -, heq⟩
    exact hother (inner ++ '>' :: rest) heq

theorem afterLiteral?_eq_some_iff : afterLiteral? cs = some rest ↔
    afterQuotation? cs = some rest ∨ afterPlaceholder? cs = some rest := by
  unfold afterLiteral?
  cases hq : afterQuotation? cs with
  | none => simp
  | some ds =>
    obtain ⟨q, inner, hquote, -, rfl⟩ := afterQuotation?_eq_some_iff.1 hq
    have hnone : afterPlaceholder? (q :: (inner ++ q :: ds)) = none := by
      rw [Option.eq_none_iff_forall_ne_some]
      intro ds' h
      obtain ⟨inner', -, -, heq⟩ := afterPlaceholder?_eq_some_iff.1 h
      obtain ⟨rfl, -⟩ := List.cons.inj heq
      exact absurd hquote (by decide)
    simp [hnone]

/-! ## Steps through a text -/

/-- Whether what is left after a piece is shorter than the text that begins with it. -/
def Shrinks (after? : List Char → Option (List Char)) : Prop :=
  ∀ cs rest, after? cs = some rest → rest.length < cs.length

theorem shrinks_afterQuotation? : Shrinks afterQuotation? := by
  intro cs rest h
  obtain ⟨q, inner, -, -, rfl⟩ := afterQuotation?_eq_some_iff.1 h
  simp only [List.length_cons, List.length_append]
  omega

theorem shrinks_afterPlaceholder? : Shrinks afterPlaceholder? := by
  intro cs rest h
  obtain ⟨inner, -, -, rfl⟩ := afterPlaceholder?_eq_some_iff.1 h
  simp only [List.length_cons, List.length_append]
  omega

theorem shrinks_afterLiteral? : Shrinks afterLiteral? := by
  intro cs rest h
  rcases afterLiteral?_eq_some_iff.1 h with hq | hp
  · exact shrinks_afterQuotation? cs rest hq
  · exact shrinks_afterPlaceholder? cs rest hp

/-- A bound on the steps has no effect once it covers the characters. -/
theorem substituteFrom_eq_of_le (hshrinks : Shrinks after?) {m n : Nat} (hm : cs.length ≤ m)
    (hn : cs.length ≤ n) : substituteFrom after? fill m cs = substituteFrom after? fill n cs := by
  induction m generalizing n cs with
  | zero =>
    obtain rfl : cs = [] := List.length_eq_zero_iff.1 (Nat.le_zero.1 hm)
    simp [substituteFrom]
  | succ m ih =>
    cases cs with
    | nil => simp [substituteFrom]
    | cons c cs =>
      obtain ⟨n, rfl⟩ : ∃ k, n = k + 1 := Nat.exists_eq_succ_of_ne_zero (by rintro rfl; simp at hn)
      rw [List.length_cons, Nat.add_le_add_iff_right] at hm hn
      simp only [substituteFrom]
      cases hafter : after? (c :: cs) with
      | none => rw [ih hm hn]
      | some rest =>
        have hlt := hshrinks _ _ hafter
        rw [List.length_cons] at hlt
        exact congrArg (fill ++ ·) (ih (by omega) (by omega))

theorem tokensFrom_eq_of_le {m n : Nat} (hm : cs.length ≤ m) (hn : cs.length ≤ n) :
    tokensFrom m cs = tokensFrom n cs := by
  induction m generalizing n cs with
  | zero =>
    obtain rfl : cs = [] := List.length_eq_zero_iff.1 (Nat.le_zero.1 hm)
    simp [tokensFrom]
  | succ m ih =>
    cases cs with
    | nil => simp [tokensFrom]
    | cons c cs =>
      obtain ⟨n, rfl⟩ : ∃ k, n = k + 1 := Nat.exists_eq_succ_of_ne_zero (by rintro rfl; simp at hn)
      rw [List.length_cons, Nat.add_le_add_iff_right] at hm hn
      have hword := (List.dropWhile_suffix isWordPart (l := cs)).length_le
      simp only [tokensFrom]
      cases hafter : afterLiteral? (c :: cs) with
      | none => rw [ih hm hn, ih (hword.trans hm) (hword.trans hn)]
      | some rest =>
        have hlt := shrinks_afterLiteral? _ _ hafter
        rw [List.length_cons] at hlt
        exact congrArg (Token.literal :: ·) (ih (by omega) (by omega))

/-- The piece at the beginning is replaced, or else the first character is kept. -/
theorem substitute_cons (hshrinks : Shrinks after?) (c : Char) (cs : List Char) :
    substitute after? fill (c :: cs) =
      match after? (c :: cs) with
      | some rest => fill ++ substitute after? fill rest
      | none => c :: substitute after? fill cs := by
  rw [substitute, List.length_cons, substituteFrom]
  cases hafter : after? (c :: cs) with
  | none => rfl
  | some rest =>
    have hlt := hshrinks _ _ hafter
    rw [List.length_cons] at hlt
    simp only [substitute]
    rw [substituteFrom_eq_of_le hshrinks (Nat.le_of_lt_succ hlt) le_rfl]

/-- A text begins with a literal or with a word, or else its first character is passed over. -/
theorem tokens_cons (c : Char) (cs : List Char) :
    tokens (c :: cs) =
      match afterLiteral? (c :: cs) with
      | some rest => .literal :: tokens rest
      | none =>
        if isLetter c then
          .word (lowerWord (c :: cs.takeWhile isWordPart)) :: tokens (cs.dropWhile isWordPart)
        else tokens cs := by
  have hword := (List.dropWhile_suffix isWordPart (l := cs)).length_le
  rw [tokens, List.length_cons, tokensFrom]
  cases hafter : afterLiteral? (c :: cs) with
  | none =>
    simp only [tokens]
    rw [tokensFrom_eq_of_le hword le_rfl]
  | some rest =>
    have hlt := shrinks_afterLiteral? _ _ hafter
    rw [List.length_cons] at hlt
    simp only [tokens]
    rw [tokensFrom_eq_of_le (Nat.le_of_lt_succ hlt) le_rfl]

end FeatureAudit.Step
