import FeatureAudit.Concordance
import FeatureAudit.Proofs.Tag.Order
import FeatureAudit.Proofs.Tag.Tally
import FeatureAudit.Proofs.Text.Capitals
import FeatureAudit.Tag.PriorityStyle

/-!
# Tags without capital letters

A tag without its capital letters of ASCII is the same tag, has the same length, the same
comparison key, the same category and the same style of priority. What is done with lists of tags
therefore commutes with taking the capital letters away: first mentions, tallies, pairs, and sorting
where no tag is mentioned twice.
-/

set_option autoImplicit false

namespace FeatureAudit

namespace Tag

/-- The tag without capital letters of ASCII. -/
def uncapped (t : Tag) : Tag where
  name := Text.uncap t.name
  signed := by
    rw [Text.toList_uncap, Text.uncapChars, List.head?_map, t.signed]
    rfl

variable (t u : Tag) (ts : List Tag)

@[simp] theorem folded_uncapped : t.uncapped.folded = t.folded := by
  rw [t.folded_eq]
  exact Text.fold_uncap t.name

@[simp] theorem length_name_uncapped : t.uncapped.name.length = t.name.length :=
  Text.length_uncap t.name

@[simp] theorem key_uncapped : t.uncapped.key = t.key := by
  have hname : t.uncapped.name.toList = Text.uncapChars t.name.toList := Text.toList_uncap t.name
  have hdrop : (Text.uncapChars t.name.toList).drop 1 = Text.uncapChars (t.name.toList.drop 1) :=
    List.map_drop.symm
  rw [key, key, hname, hdrop, Text.flatMap_foldChar_uncapChars]

@[simp] theorem priorityStyle?_uncapped :
    priorityStyle? t.uncapped.name = priorityStyle? t.name := by
  have hlower : Text.lower t.uncapped.name = Text.lower t.name := Text.lower_uncap t.name
  simp only [priorityStyle?, hlower]

@[simp] theorem categoryOf_uncapped (taxonomy : Taxonomy) :
    taxonomy.categoryOf t.uncapped = taxonomy.categoryOf t := by
  simp only [Taxonomy.categoryOf, folded_uncapped]

@[simp] theorem same_uncapped_left : t.uncapped.same u = t.same u := by
  rw [same, same, folded_uncapped]

@[simp] theorem same_uncapped_right : t.same u.uncapped = t.same u := by
  rw [same, same, folded_uncapped]

@[simp] theorem similar_uncapped : t.uncapped.similar u.uncapped = t.similar u := by
  rw [similar, similar, distance, distance, key_uncapped, key_uncapped]

/-! ## Lists -/

@[simp] theorem mentioned_uncapped : t.uncapped.mentioned ts = t.mentioned ts :=
  mentioned_congr (folded_uncapped t) rfl

@[simp] theorem mentioned_map_uncapped : t.mentioned (ts.map uncapped) = t.mentioned ts :=
  mentioned_congr rfl (by simp [Function.comp_def])

theorem distinct_map_uncapped : distinct (ts.map uncapped) = (distinct ts).map uncapped := by
  induction ts with
  | nil => rfl
  | cons t ts ih =>
    simp [distinct, ih, List.filter_map, Function.comp_def]

theorem pairs_map {α β : Type} (f : α → β) (as : List α) :
    pairs (as.map f) = (pairs as).map (Prod.map f f) := by
  induction as with
  | nil => rfl
  | cons a as ih => simp [pairs, ih, Function.comp_def]

/-! ## Sorting -/

/-- The spelling decides between mentions of one tag only. -/
theorem compareNames_uncapped {t u : Tag} (h : t.folded = u.folded → t = u) :
    compareNames t u = compareNames t.uncapped u.uncapped := by
  have hself : ∀ v : Tag, compareNames v v = .eq := fun v => Std.ReflCmp.compare_self
  by_cases heq : t.folded = u.folded
  · rw [h heq, hself, hself]
  · have hne : Text.compareTexts t.folded u.folded ≠ .eq :=
      fun hcmp => heq (Std.LawfulEqCmp.eq_of_compare hcmp)
    rw [compareNames, compareNames, folded_uncapped, folded_uncapped]
    cases hcmp : Text.compareTexts t.folded u.folded with
    | eq => exact absurd hcmp hne
    | lt => rw [Ordering.lt_then, Ordering.lt_then]
    | gt => rw [Ordering.gt_then, Ordering.gt_then]

theorem compareIn_uncapped (taxonomy : Taxonomy) {t u : Tag} (h : t.folded = u.folded → t = u) :
    compareIn taxonomy t u = compareIn taxonomy t.uncapped u.uncapped := by
  rw [compareIn, compareIn, categoryOf_uncapped, categoryOf_uncapped, compareNames_uncapped h]

theorem sortBy_map_uncapped {ts : List Tag} (h : (ts.map folded).Nodup) :
    Text.sortBy compareNames (ts.map uncapped) = (Text.sortBy compareNames ts).map uncapped := by
  refine (Text.map_sortBy (f := uncapped) fun t ht u hu => ?_).symm
  exact compareNames_uncapped fun heq => List.inj_on_of_nodup_map h ht hu heq

/-! ## Tallies -/

namespace Tally

/-- The tally with its tags without capital letters. -/
def uncapped (tally : Tally) : Tally := tally.map fun e => (e.1.uncapped, e.2)

theorem ofTags_map_uncapped : ofTags (ts.map Tag.uncapped) = uncapped (ofTags ts) := by
  simp [ofTags_eq, counted, uncapped, distinct_map_uncapped, List.countP_map, Function.comp_def]

theorem get?_uncapped (tally : Tally) :
    (get? (uncapped tally) t).map Prod.snd = (get? tally t).map Prod.snd := by
  simp [get?, uncapped, List.find?_map, Function.comp_def]

@[simp] theorem count_uncapped (tally : Tally) : count (uncapped tally) t = count tally t := by
  rw [count, count, get?_uncapped]

end Tally

end Tag

end FeatureAudit
