import Mathlib.Computability.Language
import Mathlib.Data.List.TakeWhile
import FeatureAudit.Text.Search

/-!
# Looking for a phrase is membership in a language

A pattern is described by the language of the texts that it matches, put together from fixed texts
and runs of characters. A search steps through the text from left to right and never goes back; it
finds the pattern all the same if each part of the pattern begins with other characters than those
the part before it runs over (`mem_opening_run_mul`, `mem_opening_run₁_mul`).
-/

set_option autoImplicit false

namespace FeatureAudit.Text

/-! ## Languages -/

/-- One text. -/
def exactly (s : String) : Language Char := {w | w = s.toList}

/-- Some texts. -/
def oneOf (ss : List String) : Language Char := {w | ∃ s ∈ ss, w = s.toList}

/-- Runs of characters of a kind. -/
def run (p : Char → Bool) : Language Char := {w | ∀ c ∈ w, p c = true}

/-- Runs of at least one character of a kind. -/
def run₁ (p : Char → Bool) : Language Char := {w | w ≠ [] ∧ ∀ c ∈ w, p c = true}

/-- Texts that begin with a word of a language. -/
def opening (L : Language Char) : Language Char := {cs | ∃ w ∈ L, w <+: cs}

/-- Texts in which a word of a language occurs. -/
def within (L : Language Char) : Language Char := {cs | ∃ w ∈ L, w <:+: cs}

variable {L M : Language Char} {p : Char → Bool} {s : String} {cs : List Char}

theorem mem_opening : cs ∈ opening L ↔ ∃ w ∈ L, w <+: cs := Iff.rfl

theorem mem_within : cs ∈ within L ↔ ∃ w ∈ L, w <:+: cs := Iff.rfl

theorem opening_add : opening (L + M) = opening L + opening M := by
  ext cs
  simp only [mem_opening, Language.mem_add, or_and_right, exists_or]

/-! ## Parts of a pattern, from left to right -/

/-- Kinds that have no character in common. -/
def Apart (p q : Char → Bool) : Prop := ∀ c, p c = true → q c = false

theorem Apart.symm {q : Char → Bool} (h : Apart p q) : Apart q p := by
  intro c hq
  by_contra hp
  rw [h c (by simpa using hp)] at hq
  exact Bool.false_ne_true hq

/-- A language whose words all begin with a character that is not of a kind. -/
def Avoids (p : Char → Bool) (L : Language Char) : Prop := ∀ w ∈ L, ∃ c ∈ w.head?, p c = false

theorem avoids_exactly {c : Char} (hs : s.toList.head? = some c) (hc : p c = false) :
    Avoids p (exactly s) := by
  rintro w rfl
  exact ⟨c, hs, hc⟩

theorem avoids_run₁ {q : Char → Bool} (hq : Apart q p) : Avoids p (run₁ q) := by
  rintro w ⟨hne, hw⟩
  obtain ⟨c, cs, rfl⟩ := List.exists_cons_of_ne_nil hne
  exact ⟨c, rfl, hq c (hw c (List.mem_cons_self ..))⟩

theorem Avoids.mul (h : Avoids p L) (M : Language Char) : Avoids p (L * M) := by
  intro w hw
  obtain ⟨v, hv, u, -, rfl⟩ := Language.mem_mul.1 hw
  obtain ⟨c, hhead, hc⟩ := h v hv
  exact ⟨c, by simp [List.head?_append, Option.mem_def.1 hhead], hc⟩

/-- A run may be empty, so that what follows must avoid the kind too. -/
theorem Avoids.run_mul {q : Char → Bool} (hq : Apart q p) (hL : Avoids p L) :
    Avoids p (run q * L) := by
  intro w hw
  obtain ⟨v, hv, u, hu, rfl⟩ := Language.mem_mul.1 hw
  cases v with
  | nil => exact hL u hu
  | cons c v => exact ⟨c, rfl, hq c (hv c (List.mem_cons_self ..))⟩

theorem after?_eq_some_iff {rest : List Char} :
    after? s cs = some rest ↔ s.toList ++ rest = cs := by
  rw [after?, List.isPrefixOf?_eq_some_iff_append_eq]

theorem mem_opening_exactly_mul :
    cs ∈ opening (exactly s * L) ↔ ∃ rest, s.toList ++ rest = cs ∧ rest ∈ opening L := by
  constructor
  · rintro ⟨w, hw, rest, rfl⟩
    obtain ⟨v, rfl, u, hu, rfl⟩ := Language.mem_mul.1 hw
    exact ⟨u ++ rest, by rw [List.append_assoc], u, hu, List.prefix_append u rest⟩
  · rintro ⟨rest, rfl, w, hw, hprefix⟩
    exact ⟨s.toList ++ w, Language.append_mem_mul rfl hw,
      (List.prefix_append_right_inj _).2 hprefix⟩

theorem mem_opening_exactly : cs ∈ opening (exactly s) ↔ s.toList <+: cs := by
  constructor
  · rintro ⟨w, rfl, hprefix⟩
    exact hprefix
  · exact fun h => ⟨s.toList, rfl, h⟩

theorem mem_opening_char {c : Char} (hs : s.toList = [c]) :
    cs ∈ opening (exactly s) ↔ cs.head? = some c := by
  rw [mem_opening_exactly, hs, List.head?_eq_some_iff]
  exact ⟨fun ⟨rest, h⟩ => ⟨rest, h.symm⟩, fun ⟨rest, h⟩ => ⟨rest, h.symm⟩⟩

theorem mem_opening_oneOf {ss : List String} :
    cs ∈ opening (oneOf ss) ↔ ∃ s ∈ ss, s.toList <+: cs := by
  constructor
  · rintro ⟨w, ⟨s, hs, rfl⟩, hprefix⟩
    exact ⟨s, hs, hprefix⟩
  · rintro ⟨s, hs, hprefix⟩
    exact ⟨s.toList, ⟨s, hs, rfl⟩, hprefix⟩

theorem mem_opening_run₁ : cs ∈ opening (run₁ p) ↔ ∃ c ∈ cs.head?, p c = true := by
  constructor
  · rintro ⟨w, ⟨hne, hw⟩, rest, rfl⟩
    obtain ⟨c, w, rfl⟩ := List.exists_cons_of_ne_nil hne
    exact ⟨c, rfl, hw c (List.mem_cons_self ..)⟩
  · rintro ⟨c, hc, hp⟩
    obtain ⟨rest, rfl⟩ := List.head?_eq_some_iff.1 hc
    exact ⟨[c], ⟨by simp, by simpa using hp⟩, by simp⟩

/-- A run ends where a character of another kind follows. -/
theorem takeWhile_eq_of_append {v u : List Char} (hv : ∀ c ∈ v, p c = true)
    (hu : ∃ c ∈ u.head?, p c = false) (h : v ++ u <+: cs) :
    cs.takeWhile p = v ∧ u <+: cs.dropWhile p := by
  obtain ⟨rest, rfl⟩ := h
  obtain ⟨c, hc, hp⟩ := hu
  obtain ⟨u, rfl⟩ := List.head?_eq_some_iff.1 hc
  rw [List.append_assoc, List.takeWhile_append_of_pos hv, List.dropWhile_append_of_pos hv]
  simp [hp]

theorem prefix_of_dropWhile {u : List Char} (h : u <+: cs.dropWhile p) :
    cs.takeWhile p ++ u <+: cs := by
  conv_rhs => rw [← List.takeWhile_append_dropWhile (p := p) (l := cs)]
  exact (List.prefix_append_right_inj _).2 h

theorem mem_opening_run₁_mul (hL : Avoids p L) : cs ∈ opening (run₁ p * L) ↔
    cs.takeWhile p ≠ [] ∧ cs.dropWhile p ∈ opening L := by
  constructor
  · rintro ⟨w, hw, hprefix⟩
    obtain ⟨v, ⟨hne, hv⟩, u, hu, rfl⟩ := Language.mem_mul.1 hw
    obtain ⟨htake, hrest⟩ := takeWhile_eq_of_append hv (hL u hu) hprefix
    exact ⟨htake ▸ hne, u, hu, hrest⟩
  · rintro ⟨hne, u, hu, hprefix⟩
    have hrun : cs.takeWhile p ∈ run₁ p := ⟨hne, fun _ => List.mem_takeWhile_imp⟩
    exact ⟨_, Language.append_mem_mul hrun hu, prefix_of_dropWhile hprefix⟩

theorem mem_opening_run_mul (hL : Avoids p L) :
    cs ∈ opening (run p * L) ↔ cs.dropWhile p ∈ opening L := by
  constructor
  · rintro ⟨w, hw, hprefix⟩
    obtain ⟨v, hv, u, hu, rfl⟩ := Language.mem_mul.1 hw
    exact ⟨u, hu, (takeWhile_eq_of_append hv (hL u hu) hprefix).2⟩
  · rintro ⟨u, hu, hprefix⟩
    have hrun : cs.takeWhile p ∈ run p := fun _ => List.mem_takeWhile_imp
    exact ⟨_, Language.append_mem_mul hrun hu, prefix_of_dropWhile hprefix⟩

/-! ## Searching -/

theorem someRest_iff {q : List Char → Bool} :
    someRest q cs = true ↔ ∃ rest, rest <:+ cs ∧ q rest = true := by
  induction cs with
  | nil => simp [someRest]
  | cons c cs ih =>
    simp only [someRest, Bool.or_eq_true, ih, List.suffix_cons_iff, or_and_right, exists_or,
      exists_eq_left]

/-- To look for what opens a rest is to look for it anywhere. -/
theorem someRest_iff_mem_within {q : List Char → Bool}
    (hq : ∀ rest, q rest = true ↔ rest ∈ opening L) : someRest q cs = true ↔ cs ∈ within L := by
  simp only [someRest_iff, hq, mem_opening, mem_within, List.infix_iff_prefix_suffix]
  exact ⟨fun ⟨rest, hsuffix, w, hw, hprefix⟩ => ⟨w, hw, rest, hprefix, hsuffix⟩,
    fun ⟨w, hw, rest, hprefix, hsuffix⟩ => ⟨rest, hsuffix, w, hw, hprefix⟩⟩

theorem occurs_iff_mem_within : occurs s.toList cs = true ↔ cs ∈ within (exactly s) :=
  someRest_iff_mem_within fun _ => by simp only [mem_opening_exactly, List.isPrefixOf_iff_prefix]

theorem any_occurs_iff_mem_within {ss : List String} :
    (ss.any fun s => occurs s.toList cs) = true ↔ cs ∈ within (oneOf ss) := by
  simp only [List.any_eq_true, occurs_iff_mem_within, mem_within]
  exact ⟨fun ⟨s, hs, w, hw, hinfix⟩ => ⟨w, ⟨s, hs, hw⟩, hinfix⟩,
    fun ⟨w, ⟨s, hs, hw⟩, hinfix⟩ => ⟨s, hs, w, hw, hinfix⟩⟩

end FeatureAudit.Text
