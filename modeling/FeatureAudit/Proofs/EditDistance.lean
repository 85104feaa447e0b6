import Mathlib.Order.Bounds.Basic
import FeatureAudit.EditDistance

/-!
# The edit distance is the least number of edits

An edit puts a character into a text, takes one out or replaces one, and a script is a run of edits
one after the other, at any places. The distance that is computed row by row is the length of the
shortest script (`isLeast_distance`), so it tells texts apart, looks at both texts in the same way
and satisfies the triangle inequality.

* `script_edits`: each case of the recursion over first characters is a script.
* `Edit.edits_le`: one edit moves a text by at most one, wherever it is made, so that no script is
  shorter than the recursion tells (`Script.edits_le`).
* `row_eq`: a row holds the numbers of the recursion for the starts of both texts, turned round, and
  so it ends with that of the whole texts (`distance_eq`). Scripts can be turned round as well.
-/

set_option autoImplicit false

namespace FeatureAudit.EditDistance

variable {as bs cs : List Char} {m n : Nat}

/-! ## Scripts -/

/-- One edit of a single character; what stands before and after it is kept. -/
inductive Edit : List Char → List Char → Prop where
  /-- A character is put in. -/
  | insertion (before after : List Char) (c : Char) : Edit (before ++ after) (before ++ c :: after)
  /-- A character is taken out. -/
  | deletion (before after : List Char) (c : Char) : Edit (before ++ c :: after) (before ++ after)
  /-- A character is replaced. -/
  | replacement (before after : List Char) (c d : Char) :
      Edit (before ++ c :: after) (before ++ d :: after)

/-- A number of edits, one after the other, that turn a text into another. -/
inductive Script : Nat → List Char → List Char → Prop where
  /-- Nothing is edited. -/
  | done (as : List Char) : Script 0 as as
  /-- A first edit and those that follow it. -/
  | edit {n : Nat} {as bs cs : List Char} (first : Edit as bs) (rest : Script n bs cs) :
      Script (n + 1) as cs

theorem Edit.behind (c : Char) (h : Edit as bs) : Edit (c :: as) (c :: bs) := by
  cases h with
  | insertion before after d => exact insertion (c :: before) after d
  | deletion before after d => exact deletion (c :: before) after d
  | replacement before after d e => exact replacement (c :: before) after d e

/-- An edit can be taken back. -/
theorem Edit.symm (h : Edit as bs) : Edit bs as := by
  cases h with
  | insertion before after c => exact deletion before after c
  | deletion before after c => exact insertion before after c
  | replacement before after c d => exact replacement before after d c

/-- An edit is also one of the texts turned round. -/
theorem Edit.reverse (h : Edit as bs) : Edit as.reverse bs.reverse := by
  cases h with
  | insertion before after c => simpa using insertion after.reverse before.reverse c
  | deletion before after c => simpa using deletion after.reverse before.reverse c
  | replacement before after c d => simpa using replacement after.reverse before.reverse c d

namespace Script

/-- A script can be run behind a character. -/
theorem behind (c : Char) (h : Script n as bs) : Script n (c :: as) (c :: bs) := by
  induction h with
  | done as => exact done (c :: as)
  | edit first _ ih => exact edit (first.behind c) ih

theorem append (h : Script m as bs) (h' : Script n bs cs) : Script (m + n) as cs := by
  induction h with
  | done as => rwa [Nat.zero_add]
  | edit first _ ih =>
    rw [Nat.succ_add]
    exact edit first (ih h')

/-- A script can be taken back, the last edit first. -/
theorem symm (h : Script n as bs) : Script n bs as := by
  induction h with
  | done as => exact done as
  | edit first _ ih => exact ih.append (edit first.symm (done _))

theorem reverse (h : Script n as bs) : Script n as.reverse bs.reverse := by
  induction h with
  | done as => exact done as.reverse
  | edit first _ ih => exact edit first.reverse ih

end Script

/-! ## The recursion over first characters -/

/-- The first character of the one text is taken out, that of the other is put in, or the one
stands for the other. -/
def edits : List Char → List Char → Nat
  | [], bs => bs.length
  | a :: as, [] => (a :: as).length
  | a :: as, b :: bs => min (min (edits as (b :: bs) + 1) (edits (a :: as) bs + 1))
      (edits as bs + if a = b then 0 else 1)

@[simp] theorem edits_nil_left (bs : List Char) : edits [] bs = bs.length := by
  rw [edits]

@[simp] theorem edits_nil_right (as : List Char) : edits as [] = as.length := by
  cases as <;> rw [edits]

theorem edits_cons_cons (a b : Char) (as bs : List Char) : edits (a :: as) (b :: bs) =
    min (min (edits as (b :: bs) + 1) (edits (a :: as) bs + 1))
      (edits as bs + if a = b then 0 else 1) := by
  rw [edits]

/-! ## A script of that length -/

theorem script_edits (as bs : List Char) : Script (edits as bs) as bs := by
  induction as generalizing bs with
  | nil =>
    rw [edits_nil_left]
    induction bs with
    | nil => exact .done []
    | cons b bs ih => exact .edit (.insertion [] [] b) (ih.behind b)
  | cons a as iha =>
    induction bs with
    | nil =>
      have hrest := iha []
      rw [edits_nil_right] at hrest ⊢
      exact .edit (.deletion [] as a) hrest
    | cons b bs ihb =>
      have htakeOut : Script (edits as (b :: bs) + 1) (a :: as) (b :: bs) :=
        .edit (.deletion [] as a) (iha (b :: bs))
      have hputIn : Script (edits (a :: as) bs + 1) (a :: as) (b :: bs) :=
        .edit (.insertion [] (a :: as) b) (ihb.behind b)
      have hreplace : Script (edits as bs + if a = b then 0 else 1) (a :: as) (b :: bs) := by
        by_cases hab : a = b
        · rw [if_pos hab, hab]
          exact (iha bs).behind b
        · rw [if_neg hab]
          exact .edit (.replacement [] as a b) ((iha bs).behind b)
      have hscript : ∀ {m n : Nat}, Script m (a :: as) (b :: bs) → Script n (a :: as) (b :: bs) →
          Script (min m n) (a :: as) (b :: bs) :=
        min_rec' (Script · (a :: as) (b :: bs))
      rw [edits_cons_cons]
      exact hscript (hscript htakeOut hputIn) hreplace

/-! ## No script is shorter -/

theorem edits_self (as : List Char) : edits as as = 0 := by
  induction as with
  | nil => exact edits_nil_left []
  | cons a as ih => simp [edits_cons_cons, ih]

theorem edits_cons_left_le (a : Char) (as bs : List Char) :
    edits (a :: as) bs ≤ edits as bs + 1 := by
  cases bs with
  | nil => simp
  | cons b bs =>
    rw [edits_cons_cons]
    omega

theorem edits_cons_right_le (as : List Char) (b : Char) (bs : List Char) :
    edits as (b :: bs) ≤ edits as bs + 1 := by
  cases as with
  | nil => simp
  | cons a as =>
    rw [edits_cons_cons]
    omega

/-- To take the first character out moves a text by at most one. -/
theorem edits_le_cons_left (a : Char) (as bs : List Char) :
    edits as bs ≤ edits (a :: as) bs + 1 := by
  induction bs with
  | nil =>
    simp only [edits_nil_right, List.length_cons]
    omega
  | cons b bs ih =>
    have hright := edits_cons_right_le as b bs
    rw [edits_cons_cons]
    omega

theorem edits_replace_le (a b : Char) (as cs : List Char) :
    edits (a :: as) cs ≤ edits (b :: as) cs + 1 := by
  induction cs with
  | nil => simp
  | cons c cs ih =>
    have hright := edits_cons_right_le (a :: as) c cs
    have hcost : (if a = c then 0 else 1) ≤ 1 := by split <;> omega
    rw [edits_cons_cons, edits_cons_cons]
    rw [edits_cons_cons] at hright
    omega

/-- What moves a text by at most one does so behind a character as well. -/
theorem edits_behind_le (h : ∀ cs, edits as cs ≤ edits bs cs + 1) (p : Char)
    (cs : List Char) : edits (p :: as) cs ≤ edits (p :: bs) cs + 1 := by
  induction cs with
  | nil => simpa using h []
  | cons c cs ih =>
    have hwhole := h (c :: cs)
    have hrest := h cs
    rw [edits_cons_cons, edits_cons_cons]
    omega

theorem edits_append_le (h : ∀ cs, edits as cs ≤ edits bs cs + 1) (before cs : List Char) :
    edits (before ++ as) cs ≤ edits (before ++ bs) cs + 1 := by
  induction before generalizing cs with
  | nil => exact h cs
  | cons p before ih => exact edits_behind_le ih p cs

/-- One edit moves a text by at most one. -/
theorem Edit.edits_le (h : Edit as bs) (cs : List Char) :
    edits as cs ≤ edits bs cs + 1 := by
  cases h with
  | insertion before after c => exact edits_append_le (edits_le_cons_left c after) before cs
  | deletion before after c => exact edits_append_le (edits_cons_left_le c after) before cs
  | replacement before after c d =>
    exact edits_append_le (edits_replace_le c d after) before cs

theorem Script.edits_le (h : Script n as bs) : edits as bs ≤ n := by
  induction h with
  | done as => exact le_of_eq (edits_self as)
  | edit first _ ih =>
    have hfirst := first.edits_le
    exact (hfirst _).trans (Nat.succ_le_succ ih)

/-! ## Rows -/

/-- The longer starts of a text of which a part is read, each of them turned round. -/
def starts : List Char → List Char → List (List Char)
  | _, [] => []
  | part, b :: bs => (b :: part) :: starts (b :: part) bs

/-- A row that is filled beside one with the numbers of the recursion holds its numbers, too. -/
theorem fill_starts (a : Char) (as part bs : List Char) :
    fill a bs ((starts part bs).map (edits as)) (edits as part) (edits (a :: as) part) =
      (starts part bs).map (edits (a :: as)) := by
  induction bs generalizing part with
  | nil => rfl
  | cons b bs ih =>
    rw [starts, List.map_cons, List.map_cons, fill, ← edits_cons_cons, ih]

theorem nextRow_starts (a : Char) (as bs : List Char) :
    nextRow bs (([] :: starts [] bs).map (edits as)) a =
      ([] :: starts [] bs).map (edits (a :: as)) := by
  have hfirst : edits as [] + 1 = edits (a :: as) [] := by simp
  rw [List.map_cons, nextRow, hfirst, fill_starts]
  rfl

theorem foldl_nextRow (as as' bs : List Char) :
    as.foldl (nextRow bs) (([] :: starts [] bs).map (edits as')) =
      ([] :: starts [] bs).map (edits (as.reverse ++ as')) := by
  induction as generalizing as' with
  | nil => rfl
  | cons a as ih =>
    rw [List.foldl_cons, nextRow_starts, ih, List.reverse_cons, List.append_assoc]
    rfl

theorem map_length_starts (part bs : List Char) :
    (part :: starts part bs).map List.length = List.range' part.length (bs.length + 1) := by
  induction bs generalizing part with
  | nil => rfl
  | cons b bs ih =>
    rw [List.map_cons, starts, ih, List.length_cons]
    exact (List.range'_succ ..).symm

/-- Every number in a row is the one of the recursion for the two starts it stands for. -/
theorem row_eq (as bs : List Char) :
    row as bs = ([] :: starts [] bs).map (edits as.reverse) := by
  have hbase : List.range (bs.length + 1) = ([] :: starts [] bs).map (edits []) := by
    rw [List.range_eq_range', List.map_congr_left fun part _ => edits_nil_left part]
    exact (map_length_starts [] bs).symm
  rw [row, hbase, foldl_nextRow, List.append_nil]

theorem getLast?_starts (part bs : List Char) :
    (part :: starts part bs).getLast? = some (bs.reverse ++ part) := by
  induction bs generalizing part with
  | nil => rfl
  | cons b bs ih =>
    rw [starts, List.getLast?_cons_cons, ih, List.reverse_cons, List.append_assoc]
    rfl

/-- The rows end with the number of the recursion, which is also the one of the cases that need no
row. -/
theorem distance_eq (as bs : List Char) : distance as bs = edits as.reverse bs.reverse := by
  rw [distance]
  split
  case isTrue heq => rw [heq, edits_self]
  case isFalse =>
    split
    case isTrue has => simp [List.isEmpty_iff.1 has]
    case isFalse =>
      split
      case isTrue hbs => simp [List.isEmpty_iff.1 hbs]
      case isFalse =>
        rw [row_eq, List.getLastD_eq_getLast?, List.getLast?_map, getLast?_starts, List.append_nil]
        rfl

/-! ## The shortest script -/

/-- A script of that length is run from behind on the texts turned round. -/
theorem script_distance (as bs : List Char) : Script (distance as bs) as bs := by
  have hscript := (script_edits as.reverse bs.reverse).reverse
  rwa [List.reverse_reverse, List.reverse_reverse, ← distance_eq] at hscript

theorem Script.distance_le (h : Script n as bs) : distance as bs ≤ n := by
  rw [distance_eq]
  exact h.reverse.edits_le

theorem distance_le_iff : distance as bs ≤ n ↔ ∃ m ≤ n, Script m as bs :=
  ⟨fun h => ⟨_, h, script_distance as bs⟩, fun ⟨_, hm, h⟩ => h.distance_le.trans hm⟩

theorem distance_eq_zero_iff : distance as bs = 0 ↔ as = bs := by
  constructor
  · intro h
    have hscript := script_distance as bs
    rw [h] at hscript
    cases hscript
    rfl
  · rintro rfl
    exact if_pos rfl

theorem distance_comm (as bs : List Char) : distance as bs = distance bs as :=
  le_antisymm (script_distance bs as).symm.distance_le (script_distance as bs).symm.distance_le

/-- **The distance is the least number of edits.** Some script of that length turns the one text
into the other, and no shorter one does. The distance is zero for equal texts only, it is the same
in both directions, and it is no longer than a way over a third text. -/
theorem isLeast_distance (as bs cs : List Char) :
    IsLeast {n | Script n as bs} (distance as bs) ∧
      (distance as bs = 0 ↔ as = bs) ∧
      distance as bs = distance bs as ∧
      distance as cs ≤ distance as bs + distance bs cs :=
  ⟨⟨script_distance as bs, fun _ h => h.distance_le⟩, distance_eq_zero_iff, distance_comm as bs,
    ((script_distance as bs).append (script_distance bs cs)).distance_le⟩

end FeatureAudit.EditDistance
