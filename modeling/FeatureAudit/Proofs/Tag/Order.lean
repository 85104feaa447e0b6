import FeatureAudit.Proofs.Tag.Distinct
import FeatureAudit.Proofs.Text.Order
import FeatureAudit.Tag.Taxonomy

/-!
# Sorted tags

Tags are ordered by their folded names; the spelling decides only between mentions of one tag. Where
no tag is mentioned twice, sorted tags therefore ascend by their folded names
(`ascending_sortBy`).
-/

set_option autoImplicit false

namespace FeatureAudit.Tag

/-- Whether the folded name of a tag comes before that of another. -/
def Before (t u : Tag) : Prop := Text.compareTexts t.folded u.folded = .lt

/-- Tags whose folded names come one after the other. -/
def Ascending (ts : List Tag) : Prop := ts.Pairwise Before

instance : Std.TransCmp compareNames :=
  Text.transCmp_then (Text.transCmp_on folded) (Text.transCmp_on name)

variable {t u : Tag}

theorem Before.asymm (h : t.Before u) : ¬ u.Before t := by
  have hswap : Text.compareTexts t.folded u.folded = (Text.compareTexts u.folded t.folded).swap :=
    Std.OrientedCmp.eq_swap
  intro hback
  rw [Before, hswap, hback] at h
  contradiction

theorem Before.congr {t' u' : Tag} (h : t.Before u) (ht : t.folded = t'.folded)
    (hu : u.folded = u'.folded) : t'.Before u' := by
  rwa [Before, ← ht, ← hu]

theorem Before.folded_ne (h : t.Before u) : t.folded ≠ u.folded := fun heq =>
  h.asymm (h.congr heq heq.symm)

theorem Before.same_eq_false (h : t.Before u) : t.same u = false := by
  rw [Bool.eq_false_iff, ne_eq, same_iff]
  exact h.folded_ne

/-- Two tags are the same, or one comes before the other. -/
theorem before_trichotomy (t u : Tag) : t.Before u ∨ t.folded = u.folded ∨ u.Before t := by
  cases h : Text.compareTexts t.folded u.folded with
  | lt => exact Or.inl h
  | eq => exact Or.inr (Or.inl (Std.LawfulEqCmp.eq_of_compare h))
  | gt =>
    have hswap : Text.compareTexts u.folded t.folded = (Text.compareTexts t.folded u.folded).swap :=
      Std.OrientedCmp.eq_swap
    exact Or.inr (Or.inr (by rw [Before, hswap, h]; rfl))

theorem Ascending.nodup {ts : List Tag} (h : Ascending ts) : (ts.map folded).Nodup :=
  List.pairwise_map.2 (h.imp Before.folded_ne)

/-- An ascending list mentions a tag at most once. -/
theorem Ascending.countP_same {ts : List Tag} (h : Ascending ts) (t : Tag) :
    ts.countP t.same = if t.mentioned ts then 1 else 0 := by
  rw [Tag.countP_same, h.nodup.count]
  simp only [mentioned_iff]

/-- What is behind a tag mentions nothing else than what is behind it. -/
theorem mentioned_eq_false_of_forall_before {ts : List Tag} (hts : ∀ v ∈ ts, t.Before v)
    (h : ¬ t.Before u) : u.mentioned ts = false := by
  rw [Bool.eq_false_iff, ne_eq, mentioned_iff]
  intro hmem
  obtain ⟨v, hv, hfold⟩ := List.mem_map.1 hmem
  exact h ((hts v hv).congr rfl hfold)

/-- Tags of which none is mentioned twice ascend when they are sorted. -/
theorem ascending_sortBy {ts : List Tag} (h : (ts.map folded).Nodup) :
    Ascending (Text.sortBy compareNames ts) := by
  have hperm := Text.sortBy_perm compareNames ts
  have hnodup : (Text.sortBy compareNames ts).Pairwise fun t u => t.folded ≠ u.folded :=
    List.pairwise_map.1 ((hperm.map folded).nodup_iff.2 h)
  refine ((Text.pairwise_sortBy compareNames ts).and hnodup).imp ?_
  rintro t u ⟨hle, hne⟩
  rw [Before]
  cases hcmp : Text.compareTexts t.folded u.folded with
  | lt => rfl
  | eq => exact absurd (Std.LawfulEqCmp.eq_of_compare hcmp) hne
  | gt => simp [compareNames, hcmp] at hle

theorem mentioned_sortBy (cmp : Tag → Tag → Ordering) (t : Tag) (ts : List Tag) :
    t.mentioned (Text.sortBy cmp ts) = t.mentioned ts := by
  rw [Bool.eq_iff_iff, mentioned_iff, mentioned_iff]
  exact ((Text.sortBy_perm cmp ts).map folded).mem_iff

end FeatureAudit.Tag
