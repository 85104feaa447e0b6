import Mathlib.Data.List.DropRight
import FeatureAudit.Dialect
import FeatureAudit.Proofs.Text.Case
import FeatureAudit.Proofs.Text.Search

/-!
# The patterns of the dialect

Each pattern of the dialect is a language, and the functions that look for it on a line find it
exactly on the lines of the language. Lines with a bullet are the subtle ones: the star and the white
space behind it are read off as far as they go, but any division of the line into a star, some white
space and a content counts (`mem_starred_iff`). A search is not misled by this, because what it looks
for begins with other than white space (`Settled`). Whether a line has a bullet at all is decided by
any such division too, also where the line ends in a line feed (`isSome_starContent?_iff_starLine`).
-/

set_option autoImplicit false

namespace FeatureAudit.Dialect

open Text
open scoped Computability

/-! ## White space and words -/

theorem blankPoints_apart :
    ∀ n ∈ blankPoints,
      isWordChar (Char.ofNat n) = false ∧ isDecimalDigit (Char.ofNat n) = false := by
  decide +kernel

theorem word_digit_of_isBlank {c : Char} (h : isBlank c = true) :
    isWordChar c = false ∧ isDecimalDigit c = false :=
  forall_isBlank (fun c => isWordChar c = false ∧ isDecimalDigit c = false) blankPoints_apart h

theorem apart_blank_word : Apart isBlank isWordChar := fun _ hc => (word_digit_of_isBlank hc).1

theorem apart_blank_digit : Apart isBlank isDecimalDigit := fun _ hc => (word_digit_of_isBlank hc).2

/-! ## Patterns -/

/-- A method, white space and the name of it. -/
def methodPhrase : Language Char := exactly "method" * (run₁ isBlank * oneOf requestMethods)

/-- A status, white space and a number. -/
def statusPhrase : Language Char := exactly "status" * (run₁ isBlank * run₁ isDecimalDigit)

/-- The beginning of a function. -/
def functionPhrase : Language Char := exactly "function" * (run isBlank * exactly "(")

/-- Further parts of a name that is divided by points, and white space behind them. -/
def nameParts : Language Char := (exactly "." * run₁ isWordChar)∗ * run₁ isBlank

/-- A match, white space, a name that may be divided by points, and white space. -/
def matchPhrase : Language Char := exactly "match" * (run₁ isBlank * (run₁ isWordChar * nameParts))

/-- A character of the name of a datum: of a word, or a quotation mark. -/
def isNameChar (c : Char) : Bool := isWordChar c || c == '\x27' || c == '\x22'

/-- A brace, a name and a colon, with white space between them or without. -/
def datum : Language Char :=
  exactly "\x7b" * (run isBlank * (run₁ isNameChar * (run isBlank * exactly ":")))

/-! ## What opens with a pattern -/

theorem skipBlanks?_eq_some_iff {cs rest : List Char} : skipBlanks? cs = some rest ↔
    cs.takeWhile isBlank ≠ [] ∧ rest = cs.dropWhile isBlank := by
  cases cs with
  | nil => simp [skipBlanks?]
  | cons c cs =>
    rw [skipBlanks?, List.takeWhile_cons, List.dropWhile_cons]
    cases isBlank c with
    | true =>
      have hne : c :: cs.takeWhile isBlank ≠ [] := List.cons_ne_nil _ _
      simp only [if_true, Option.some.injEq, hne, ne_eq, not_false_eq_true, true_and]
      exact eq_comm
    | false => simp

theorem mem_opening_blanks {L : Language Char} (hL : Avoids isBlank L) {cs : List Char} :
    cs ∈ opening (run₁ isBlank * L) ↔ ∃ rest, skipBlanks? cs = some rest ∧ rest ∈ opening L := by
  simp only [mem_opening_run₁_mul hL, skipBlanks?_eq_some_iff, and_assoc, exists_and_left,
    exists_eq_left]

/-- What opens with a word, white space and more. -/
theorem mem_opening_spaced {L : Language Char} (hL : Avoids isBlank L) {s : String}
    {cs : List Char} : cs ∈ opening (exactly s * (run₁ isBlank * L)) ↔
      ∃ rest, (after? s cs).bind skipBlanks? = some rest ∧ rest ∈ opening L := by
  simp only [mem_opening_exactly_mul, ← after?_eq_some_iff, mem_opening_blanks hL,
    Option.bind_eq_some_iff]
  exact ⟨fun ⟨mid, hmid, rest, hrest, hL⟩ => ⟨rest, ⟨mid, hmid, hrest⟩, hL⟩,
    fun ⟨rest, ⟨mid, hmid, hrest⟩, hL⟩ => ⟨mid, hmid, rest, hrest, hL⟩⟩

theorem avoids_requestMethods : Avoids isBlank (oneOf requestMethods) := by
  have hheads : ∀ m ∈ requestMethods, m.toList.head?.map isBlank = some false := by decide
  rintro w ⟨m, hm, rfl⟩
  exact Option.map_eq_some_iff.1 (hheads m hm)

theorem opensMethod_iff (cs : List Char) :
    opensMethod cs = true ↔ cs ∈ opening methodPhrase := by
  rw [methodPhrase, mem_opening_spaced avoids_requestMethods, opensMethod]
  cases (after? "method" cs).bind skipBlanks? with
  | none => simp
  | some rest => simp [mem_opening_oneOf, List.any_eq_true]

theorem opensStatus_iff (cs : List Char) :
    opensStatus cs = true ↔ cs ∈ opening statusPhrase := by
  rw [statusPhrase, mem_opening_spaced (avoids_run₁ apart_blank_digit.symm),
    opensStatus]
  cases (after? "status" cs).bind skipBlanks? with
  | none => simp
  | some rest => cases rest <;> simp [mem_opening_run₁]

theorem opensFunction_iff (cs : List Char) :
    opensFunction cs = true ↔ cs ∈ opening functionPhrase := by
  have hparen : Avoids isBlank (exactly "(") := avoids_exactly rfl (by decide)
  simp only [functionPhrase, mem_opening_exactly_mul, ← after?_eq_some_iff, opensFunction,
    mem_opening_run_mul hparen, mem_opening_char (show "(".toList = ['('] from rfl)]
  cases after? "function" cs with
  | none => simp
  | some rest => simp

theorem apart_name_blank : Apart isNameChar isBlank := by
  intro c hc
  simp only [isNameChar, Bool.or_eq_true, beq_iff_eq] at hc
  rcases hc with (hword | rfl) | rfl
  · exact apart_blank_word.symm c hword
  · rfl
  · rfl

theorem opensData_iff (cs : List Char) : opensData cs = true ↔ cs ∈ opening datum := by
  -- each part begins with other characters than those that the part before it runs over
  have hcolon : Avoids isBlank (exactly ":") := avoids_exactly rfl (by decide)
  have hend : Avoids isNameChar (run isBlank * exactly ":") :=
    (avoids_exactly rfl (by decide)).run_mul apart_name_blank.symm
  have hname : Avoids isBlank (run₁ isNameChar * (run isBlank * exactly ":")) :=
    (avoids_run₁ apart_name_blank).mul _
  simp only [datum, mem_opening_exactly_mul, mem_opening_run_mul hname, mem_opening_run₁_mul hend,
    mem_opening_run_mul hcolon, mem_opening_char (show ":".toList = [':'] from rfl)]
  have hkind : (fun c => isWordChar c || c == '\x27' || c == '\x22') = isNameChar := rfl
  unfold opensData
  split
  · rename_i cs
    simp only [hkind]
    simp
  · rename_i hother
    simp only [Bool.false_eq_true, false_iff]
    rintro ⟨rest, rfl, -⟩
    exact hother rest rfl

/-! ## Names with parts -/

theorem avoids_nameParts : Avoids isWordChar nameParts := by
  intro w hw
  obtain ⟨v, ⟨parts, rfl, hparts⟩, u, hu, rfl⟩ := Language.mem_mul.1 hw
  cases parts with
  | nil => exact avoids_run₁ apart_blank_word u hu
  | cons part parts =>
    obtain ⟨point, rfl, name, -, rfl⟩ := Language.mem_mul.1 (hparts part (List.mem_cons_self ..))
    exact ⟨'.', rfl, by decide +kernel⟩

/-- A name has no further part, or one, and then perhaps more. -/
theorem mem_opening_nameParts {cs : List Char} : cs ∈ opening nameParts ↔
    (∃ c ∈ cs.head?, isBlank c = true) ∨
      ∃ rest, '.' :: rest = cs ∧ rest.takeWhile isWordChar ≠ [] ∧
        rest.dropWhile isWordChar ∈ opening nameParts := by
  have hunfold : nameParts = run₁ isBlank + exactly "." * (run₁ isWordChar * nameParts) := by
    calc nameParts = (1 + (exactly "." * run₁ isWordChar) * (exactly "." * run₁ isWordChar)∗) *
          run₁ isBlank := by rw [Language.one_add_self_mul_kstar_eq_kstar, nameParts]
      _ = run₁ isBlank + exactly "." * (run₁ isWordChar * nameParts) := by
        rw [one_add_mul, mul_assoc, mul_assoc, nameParts]
  conv_lhs => rw [hunfold]
  rw [opening_add, Language.mem_add, mem_opening_run₁, mem_opening_exactly_mul]
  simp only [mem_opening_run₁_mul avoids_nameParts]
  rfl

theorem isSome_skipBlanks? (cs : List Char) :
    (skipBlanks? cs).isSome = true ↔ ∃ c ∈ cs.head?, isBlank c = true := by
  cases cs with
  | nil => simp [skipBlanks?]
  | cons c cs => cases h : isBlank c <;> simp [skipBlanks?, h]

/-- Reading off the parts of a name as far as they go decides whether white space can follow. -/
theorem isSome_skipBlanks?_afterParts {fuel : Nat} {cs : List Char} (hfuel : cs.length ≤ fuel) :
    (skipBlanks? (afterParts fuel cs)).isSome = true ↔ cs ∈ opening nameParts := by
  have hpoint : isBlank '.' = false := by decide
  rw [mem_opening_nameParts, isSome_skipBlanks?]
  fun_induction afterParts fuel cs with
  | case1 cs =>
    obtain rfl : cs = [] := List.eq_nil_of_length_eq_zero (Nat.le_zero.1 hfuel)
    simp
  | case2 fuel c rest hword ih =>
    have hlength : (rest.dropWhile isWordChar).length ≤ fuel := by
      have hdrop := (List.dropWhile_suffix isWordChar (l := rest)).length_le
      simp only [List.length_cons] at hfuel
      omega
    refine (ih hlength).trans ?_
    rw [← mem_opening_nameParts]
    simp [hpoint, hword]
  | case3 fuel c rest hword => simp [hpoint, hword]
  | case4 fuel cs hother =>
    constructor
    · exact Or.inl
    · rintro (hblank | ⟨rest, rfl, hne, -⟩)
      · exact hblank
      · cases rest with
        | nil => simp at hne
        | cons c rest => exact (hother c rest rfl).elim

theorem opensMatch_iff (cs : List Char) : opensMatch cs = true ↔ cs ∈ opening matchPhrase := by
  have hword : Avoids isBlank (run₁ isWordChar * nameParts) :=
    (avoids_run₁ apart_blank_word.symm).mul _
  rw [matchPhrase, mem_opening_spaced hword, opensMatch]
  cases (after? "match" cs).bind skipBlanks? with
  | none => simp
  | some rest =>
    cases rest with
    | nil => simp [mem_opening_run₁_mul avoids_nameParts]
    | cons c rest =>
      have hlength := (List.dropWhile_suffix isWordChar (l := rest)).length_le
      simp only [Option.some.injEq, exists_eq_left', mem_opening_run₁_mul avoids_nameParts,
        Bool.and_eq_true, isSome_skipBlanks?_afterParts hlength]
      by_cases hc : isWordChar c = true
      · simp [hc]
      · simp [hc]

/-! ## Lines with a bullet -/

/-- A star between white space, which there must be behind it, and a content. -/
def starred (K : Language Char) : Language Char :=
  run isBlank * (exactly "*" * (run₁ isBlank * K))

variable {K L : Language Char} {line : List Char}

theorem mem_starred : line ∈ starred K ↔ ∃ lead gap content, line = lead ++ '*' :: (gap ++ content) ∧
    (∀ c ∈ lead, isBlank c = true) ∧ gap ≠ [] ∧ (∀ c ∈ gap, isBlank c = true) ∧ content ∈ K := by
  constructor
  · intro h
    obtain ⟨lead, hlead, rest, hrest, rfl⟩ := Language.mem_mul.1 h
    obtain ⟨star, rfl, tail, htail, rfl⟩ := Language.mem_mul.1 hrest
    obtain ⟨gap, ⟨hne, hgap⟩, content, hcontent, rfl⟩ := Language.mem_mul.1 htail
    exact ⟨lead, gap, content, rfl, hlead, hne, hgap, hcontent⟩
  · rintro ⟨lead, gap, content, rfl, hlead, hne, hgap, hcontent⟩
    have hstar : '*' :: (gap ++ content) = "*".toList ++ (gap ++ content) := rfl
    rw [hstar]
    exact Language.append_mem_mul hlead
      (Language.append_mem_mul rfl (Language.append_mem_mul ⟨hne, hgap⟩ hcontent))

theorem oneLine?_eq {cs : List Char} (h : '\n' ∉ cs) (hne : cs ≠ []) : oneLine? cs = some cs := by
  have hlast : cs.getLast? ≠ some '\n' := fun hlast => h (List.mem_of_getLast? hlast)
  simp [oneLine?, hlast, hne, h]

theorem lastOnLine?_eq {cs : List Char} (h : '\n' ∉ cs) :
    lastOnLine? cs = cs.getLast?.map fun c => [c] := by
  have hlast : cs.getLast? ≠ some '\n' := fun hlast => h (List.mem_of_getLast? hlast)
  rw [lastOnLine?, if_neg hlast]
  cases hc : cs.getLast? with
  | none => rfl
  | some c =>
    have hne : c ≠ '\n' := by
      rintro rfl
      exact hlast hc
    simp [hne]

/-- The white space behind a star is read off as far as it goes. -/
theorem starContent?_append {lead gap content : List Char} (hlead : ∀ c ∈ lead, isBlank c = true)
    (hne : gap ≠ []) (hgap : ∀ c ∈ gap, isBlank c = true) :
    starContent? (lead ++ '*' :: (gap ++ content)) =
      if content.dropWhile isBlank = [] then lastOnLine? ((gap ++ content).drop 1)
      else oneLine? (content.dropWhile isBlank) := by
  have hstar : isBlank '*' = false := by decide
  have hblanks : (gap ++ content).takeWhile isBlank = gap ++ content.takeWhile isBlank :=
    List.takeWhile_append_of_pos hgap
  rw [starContent?, List.dropWhile_append_of_pos hlead, List.dropWhile_cons_of_neg (by simp [hstar])]
  simp only [hblanks, List.dropWhile_append_of_pos hgap, List.isEmpty_iff, List.append_eq_nil_iff,
    hne, false_and, if_false]
  by_cases hcontent : content.dropWhile isBlank = []
  · have hall : content.takeWhile isBlank = content := by
      have hsplit := List.takeWhile_append_dropWhile (p := isBlank) (l := content)
      rwa [hcontent, List.append_nil] at hsplit
    rw [if_pos hcontent, if_pos hcontent, hall]
  · rw [if_neg hcontent, if_neg hcontent]

/-- On one line all that is left behind the star and the white space is the content, except that the
last blank is the content if nothing is left. -/
theorem starContent?_eq {lead gap content : List Char} (hlead : ∀ c ∈ lead, isBlank c = true)
    (hne : gap ≠ []) (hgap : ∀ c ∈ gap, isBlank c = true)
    (hline : '\n' ∉ lead ++ '*' :: (gap ++ content)) :
    starContent? (lead ++ '*' :: (gap ++ content)) =
      if content.dropWhile isBlank = [] then ((gap ++ content).drop 1).getLast?.map fun c => [c]
      else some (content.dropWhile isBlank) := by
  have hrest : '\n' ∉ gap ++ content := by
    intro h
    exact hline (List.mem_append_right _ (List.mem_cons_of_mem _ h))
  rw [starContent?_append hlead hne hgap]
  by_cases hcontent : content.dropWhile isBlank = []
  · rw [if_pos hcontent, if_pos hcontent]
    exact lastOnLine?_eq fun h => hrest (List.mem_of_mem_drop h)
  · rw [if_neg hcontent, if_neg hcontent]
    refine oneLine?_eq (fun h => hrest ?_) hcontent
    exact List.mem_append_right _ ((List.dropWhile_suffix isBlank).subset h)

theorem exists_of_isSome_starContent? (h : (starContent? line).isSome = true) :
    ∃ lead gap content, line = lead ++ '*' :: (gap ++ content) ∧ (∀ c ∈ lead, isBlank c = true) ∧
      gap ≠ [] ∧ (∀ c ∈ gap, isBlank c = true) ∧ content.dropWhile isBlank = content := by
  unfold starContent? at h
  split at h
  · rename_i rest hrest
    refine ⟨line.takeWhile isBlank, rest.takeWhile isBlank, rest.dropWhile isBlank, ?_,
      fun _ => List.mem_takeWhile_imp, ?_, fun _ => List.mem_takeWhile_imp,
      List.dropWhile_idempotent ..⟩
    · rw [List.takeWhile_append_dropWhile, ← hrest, List.takeWhile_append_dropWhile]
    · rintro hnil
      simp [hnil] at h
  · simp at h

/-- A language that holds on to its texts, and to some character of each, when the white space in
front of them is dropped. -/
def Settled (K : Language Char) : Prop :=
  ∀ w ∈ K, w.dropWhile isBlank ∈ K ∧ w.dropWhile isBlank ≠ []

theorem Settled.add {M : Language Char} (hK : Settled K) (hM : Settled M) : Settled (K + M) := by
  rintro w (hw | hw)
  · exact ⟨Or.inl (hK w hw).1, (hK w hw).2⟩
  · exact ⟨Or.inr (hM w hw).1, (hM w hw).2⟩

theorem settled_opening (hL : Avoids isBlank L) : Settled (opening L) := by
  rintro cs ⟨w, hw, rest, rfl⟩
  obtain ⟨c, hc, hblank⟩ := hL w hw
  obtain ⟨w, rfl⟩ := List.head?_eq_some_iff.1 hc
  rw [List.cons_append, List.dropWhile_cons_of_neg (by simp [hblank])]
  exact ⟨⟨c :: w, hw, List.prefix_append (c :: w) rest⟩, List.cons_ne_nil _ _⟩

theorem settled_within (hL : Avoids isBlank L) : Settled (within L) := by
  rintro cs ⟨w, hw, hinfix⟩
  obtain ⟨c, hc, hblank⟩ := hL w hw
  obtain ⟨w, rfl⟩ := List.head?_eq_some_iff.1 hc
  suffices h : c :: w <:+: cs.dropWhile isBlank from
    ⟨⟨c :: w, hw, h⟩, fun hnil => by simp [hnil] at h⟩
  induction cs with
  | nil => simp at hinfix
  | cons d cs ih =>
    by_cases hd : isBlank d = true
    · rw [List.dropWhile_cons_of_pos hd]
      rcases List.infix_cons_iff.1 hinfix with hprefix | hinfix
      · obtain ⟨rfl, -⟩ := List.cons_prefix_cons.1 hprefix
        rw [hblank] at hd
        exact absurd hd Bool.false_ne_true
      · exact ih hinfix
    · rwa [List.dropWhile_cons_of_neg hd]

/-- Whichever content a line with a bullet is given, the one that is read off decides. -/
theorem mem_starred_iff (hK : Settled K) (hline : '\n' ∉ line) :
    line ∈ starred K ↔ ∃ content ∈ starContent? line, content ∈ K := by
  constructor
  · intro h
    obtain ⟨lead, gap, content, rfl, hlead, hne, hgap, hcontent⟩ := mem_starred.1 h
    obtain ⟨hrest, hsome⟩ := hK content hcontent
    exact ⟨_, by rw [starContent?_eq hlead hne hgap hline, if_neg hsome, Option.mem_def], hrest⟩
  · rintro ⟨found, hfound, hK'⟩
    obtain ⟨lead, gap, content, rfl, hlead, hne, hgap, hcontent⟩ :=
      exists_of_isSome_starContent? (Option.isSome_of_mem hfound)
    rw [starContent?_eq hlead hne hgap hline, hcontent] at hfound
    split at hfound
    -- a content of white space alone is in no settled language
    · rename_i hnil
      rw [hnil, List.append_nil] at hfound
      obtain ⟨b, hb, rfl⟩ := Option.map_eq_some_iff.1 hfound
      have hblank : isBlank b = true := hgap b (List.mem_of_mem_drop (List.mem_of_getLast? hb))
      exact absurd (by simp [hblank]) (hK [b] hK').2
    · obtain rfl : content = found := Option.some.inj hfound
      exact mem_starred.2 ⟨lead, gap, content, rfl, hlead, hne, hgap, hK'⟩

/-! ## Lines that may end in a line feed -/

/-- Text without the line feed at its end, if there is one. -/
def bare (cs : List Char) : List Char := if cs.getLast? = some '\n' then cs.dropLast else cs

/-- The rest of a line: at least one character, and possibly the line feed that ends the line. -/
def restOfLine : Language Char := run₁ (· != '\n') * (1 + exactly "\n")

theorem mem_restOfLine {w : List Char} : w ∈ restOfLine ↔
    ∃ body stop, w = body ++ stop ∧ body ≠ [] ∧ '\n' ∉ body ∧ (stop = [] ∨ stop = ['\n']) := by
  have hstop : ∀ stop : List Char, stop ∈ (1 + exactly "\n" : Language Char) ↔
      stop = [] ∨ stop = ['\n'] := fun stop => by
    rw [Language.mem_add, Language.mem_one]
    rfl
  have hbody : ∀ body : List Char, (∀ c ∈ body, (c != '\n') = true) ↔ '\n' ∉ body := fun body => by
    simp [List.forall_mem_ne']
  constructor
  · intro h
    obtain ⟨body, ⟨hne, hrun⟩, stop, hend, rfl⟩ := Language.mem_mul.1 h
    exact ⟨body, stop, rfl, hne, (hbody body).1 hrun, (hstop stop).1 hend⟩
  · rintro ⟨body, stop, rfl, hne, hrun, hend⟩
    exact Language.append_mem_mul ⟨hne, (hbody body).2 hrun⟩ ((hstop stop).2 hend)

theorem bare_append {lead body stop : List Char} (hne : body ≠ []) (hbody : '\n' ∉ body)
    (hstop : stop = [] ∨ stop = ['\n']) : bare (lead ++ (body ++ stop)) = lead ++ body := by
  rcases hstop with rfl | rfl
  · have hlast : (lead ++ body).getLast? ≠ some '\n' := by
      rw [List.getLast?_append_of_ne_nil _ hne]
      exact fun hlast => hbody (List.mem_of_getLast? hlast)
    rw [List.append_nil, bare, if_neg hlast]
  · rw [← List.append_assoc, bare, if_pos (by simp), List.dropLast_concat]

theorem exists_bare (cs : List Char) :
    ∃ stop, cs = bare cs ++ stop ∧ (stop = [] ∨ stop = ['\n']) := by
  rw [bare]
  split
  · rename_i hlast
    exact ⟨['\n'], (List.dropLast_append_getLast? _ hlast).symm, Or.inr rfl⟩
  · exact ⟨[], (List.append_nil cs).symm, Or.inl rfl⟩

theorem isSome_oneLine?_iff {cs : List Char} : (oneLine? cs).isSome = true ↔ cs ∈ restOfLine := by
  have hone : (oneLine? cs).isSome = true ↔ bare cs ≠ [] ∧ '\n' ∉ bare cs := by
    rw [oneLine?, ← bare]
    by_cases hne : bare cs = [] <;> by_cases hfeed : '\n' ∈ bare cs <;> simp [hne, hfeed]
  rw [hone, mem_restOfLine]
  constructor
  · rintro ⟨hne, hfeed⟩
    obtain ⟨stop, hcs, hstop⟩ := exists_bare cs
    exact ⟨bare cs, stop, hcs, hne, hfeed, hstop⟩
  · rintro ⟨body, stop, rfl, hne, hfeed, hstop⟩
    have hbare : bare ([] ++ (body ++ stop)) = [] ++ body := bare_append hne hfeed hstop
    rw [List.nil_append, List.nil_append] at hbare
    rw [hbare]
    exact ⟨hne, hfeed⟩

/-- The last character of a text can be the rest of a line exactly if some end of the text can. -/
theorem isSome_lastOnLine?_iff {cs : List Char} :
    (lastOnLine? cs).isSome = true ↔ ∃ w ∈ restOfLine, w <:+ cs := by
  have hlast : (lastOnLine? cs).isSome = true ↔ ∃ c ∈ (bare cs).getLast?, c ≠ '\n' := by
    rw [lastOnLine?, ← bare]
    cases (bare cs).getLast? with
    | none => simp
    | some c => by_cases hc : c = '\n' <;> simp [hc]
  rw [hlast]
  constructor
  · rintro ⟨c, hc, hfeed⟩
    obtain ⟨stop, hcs, hstop⟩ := exists_bare cs
    obtain ⟨lead, hlead⟩ := List.getLast?_eq_some_iff.1 hc
    refine ⟨[c] ++ stop, mem_restOfLine.2 ⟨[c], stop, rfl, by simp, ?_, hstop⟩, lead, ?_⟩
    · simpa using Ne.symm hfeed
    · rw [hcs, hlead, List.append_assoc]
  · rintro ⟨w, hw, lead, rfl⟩
    obtain ⟨body, stop, rfl, hne, hfeed, hstop⟩ := mem_restOfLine.1 hw
    rw [bare_append hne hfeed hstop, List.getLast?_append_of_ne_nil _ hne]
    refine ⟨body.getLast hne, List.getLast?_eq_some_getLast hne, fun hc => hfeed ?_⟩
    rw [← hc]
    exact List.getLast_mem hne

/-- White space in front of the rest of a line may be dropped, unless nothing else is there. -/
theorem dropWhile_mem_restOfLine {w : List Char} (hw : w ∈ restOfLine)
    (hne : w.dropWhile isBlank ≠ []) : w.dropWhile isBlank ∈ restOfLine := by
  obtain ⟨body, stop, rfl, -, hfeed, hstop⟩ := mem_restOfLine.1 hw
  have hblank : stop.dropWhile isBlank = [] := by
    rcases hstop with rfl | rfl <;> decide
  have hbody : body.dropWhile isBlank ≠ [] := by
    intro hnil
    rw [List.dropWhile_append, hnil] at hne
    exact hne hblank
  have hdrop : (body ++ stop).dropWhile isBlank = body.dropWhile isBlank ++ stop := by
    rw [List.dropWhile_append, if_neg (by simpa using hbody)]
  rw [hdrop]
  exact mem_restOfLine.2 ⟨_, stop, rfl, hbody,
    fun h => hfeed ((List.dropWhile_suffix isBlank).subset h), hstop⟩

/-- Lines with a bullet step: a star, white space, and the rest of the line. -/
def starLine : Language Char := starred restOfLine

/-- A content is read off exactly from the lines with a bullet step, whatever is read off. -/
theorem isSome_starContent?_iff_starLine :
    (starContent? line).isSome = true ↔ line ∈ starLine := by
  constructor
  · intro h
    obtain ⟨lead, gap, content, rfl, hlead, hne, hgap, hcontent⟩ := exists_of_isSome_starContent? h
    rw [starContent?_append hlead hne hgap, hcontent] at h
    by_cases hnil : content = []
    -- without more, the last blank is the content, and another blank stands before it
    · rw [if_pos hnil, hnil, List.append_nil, isSome_lastOnLine?_iff] at h
      obtain ⟨w, hw, start, hstart⟩ := h
      obtain ⟨b, gap, rfl⟩ := List.exists_cons_of_ne_nil hne
      obtain rfl : start ++ w = gap := hstart
      refine mem_starred.2 ⟨lead, b :: start, w, by simp [hnil], hlead, by simp, ?_, hw⟩
      intro c hc
      exact hgap c (List.mem_append_left w hc)
    · rw [if_neg hnil, isSome_oneLine?_iff] at h
      exact mem_starred.2 ⟨lead, gap, content, rfl, hlead, hne, hgap, h⟩
  · intro h
    obtain ⟨lead, gap, content, rfl, hlead, hne, hgap, hcontent⟩ := mem_starred.1 h
    rw [starContent?_append hlead hne hgap]
    split
    · obtain ⟨b, gap, rfl⟩ := List.exists_cons_of_ne_nil hne
      exact isSome_lastOnLine?_iff.2 ⟨content, hcontent, List.suffix_append gap content⟩
    · rename_i hsome
      exact isSome_oneLine?_iff.2 (dropWhile_mem_restOfLine hcontent hsome)

/-- A bullet step: a star, white space, and at least one more character. -/
def bullet : Language Char := starred {w | w ≠ []}

/-- On one line the rest of the line is anything. -/
theorem isSome_starContent?_iff (hline : '\n' ∉ line) :
    (starContent? line).isSome = true ↔ line ∈ bullet := by
  rw [isSome_starContent?_iff_starLine]
  constructor
  · intro h
    obtain ⟨lead, gap, content, rfl, hlead, hne, hgap, hcontent⟩ := mem_starred.1 h
    obtain ⟨body, stop, rfl, hbody, -⟩ := mem_restOfLine.1 hcontent
    exact mem_starred.2
      ⟨lead, gap, _, rfl, hlead, hne, hgap, List.append_ne_nil_of_left_ne_nil hbody stop⟩
  · intro h
    obtain ⟨lead, gap, content, rfl, hlead, hne, hgap, hcontent⟩ := mem_starred.1 h
    have hfeed : '\n' ∉ content := fun h =>
      hline (List.mem_append_right _ (List.mem_cons_of_mem _ (List.mem_append_right _ h)))
    have hrest : content ∈ restOfLine := mem_restOfLine.2
      ⟨content, [], (List.append_nil content).symm, hcontent, hfeed, Or.inl rfl⟩
    exact mem_starred.2 ⟨lead, gap, content, rfl, hlead, hne, hgap, hrest⟩

end FeatureAudit.Dialect
