import Mathlib.Logic.Function.Basic
import FeatureAudit.Config
import FeatureAudit.Config.Coercion
import FeatureAudit.Pattern.Engine
import FeatureAudit.Proofs.Tag.Distinct
import FeatureAudit.Proofs.Tag.Name
import FeatureAudit.Proofs.Text.Case

/-!
# Names that replace the lists of a taxonomy

A list of a taxonomy is replaced by raw names, and so is the list of tags that say little. A taxonomy
takes the folded names and leaves out what is blank, the other list takes tags and leaves out what
makes none. Both take every raw name in the same way (`nameOf?_of_of?`) but the bare sign, which makes
no tag and yet has a folded name (`nameOf?_of_of?_eq_none`). So the lists are replaced alike unless
there are bare signs and no tags at all: then no tag is left in the category (`overridden_exact`).
-/

set_option autoImplicit false

namespace FeatureAudit

namespace Taxonomy

/-! ## Lists by category -/

/-- The names of a category. -/
def list (t : Taxonomy) : Tag.Category → List String
  | .priority => t.priority
  | .type => t.type
  | .status => t.status
  | .other => []

/-- The taxonomy with raw names for each category in place of its lists. -/
def overridden (t : Taxonomy) (raws : Tag.Category → List String) : Taxonomy :=
  t.withOverrides (raws .priority) (raws .type) (raws .status)

variable {taxonomy : Taxonomy} {category : Tag.Category}

/-- Each list is replaced by the names for its own category. -/
theorem list_overridden (raws : Tag.Category → List String) (hcategory : category ≠ .other) :
    (taxonomy.overridden raws).list category =
      replaced (taxonomy.list category) (entries (raws category)) := by
  cases category with
  | priority => rfl
  | type => rfl
  | status => rfl
  | other => exact absurd rfl hcategory

theorem folded_mem_list_of_categoryOf {t : Tag} (h : taxonomy.categoryOf t = category)
    (hcategory : category ≠ .other) : t.folded ∈ taxonomy.list category := by
  unfold categoryOf at h
  split at h
  · rwa [← h]
  split at h
  · rwa [← h]
  split at h
  · rwa [← h]
  exact absurd h.symm hcategory

/-! ## Raw names and tags -/

/-- Whether raw names hold bare signs, perhaps blanks, and no tag. -/
def SignOnly (raws : List String) : Prop :=
  (∀ raw ∈ raws, Tag.of? raw = none) ∧ ∃ raw ∈ raws, Text.trim raw = "@"

instance (raws : List String) : Decidable (SignOnly raws) := inferInstanceAs (Decidable (_ ∧ _))

variable {raw name : String} {raws : List String} {t : Tag}

/-- What makes a tag has the folded name of the tag. -/
theorem nameOf?_of_of? (h : Tag.of? raw = some t) : nameOf? raw = some t.folded := by
  obtain ⟨hsome, hname⟩ := Tag.of?_eq_some_iff.1 h
  rw [not_or] at hsome
  rw [nameOf?, if_neg hsome.1, t.folded_eq, hname, Text.fold, String.toList_ofList]

/-- What makes no tag has no folded name either, the bare sign apart. -/
theorem nameOf?_of_of?_eq_none (h : Tag.of? raw = none) :
    nameOf? raw = if Text.trim raw = "@" then some "@" else none := by
  have hsign : Text.trim raw = "@" ↔ Text.trimChars raw.toList = [sigil] := Tag.trim_eq_iff
  have hfold : (Tag.withSigil [sigil]).flatMap Text.foldChar = [sigil] := by decide
  rcases Tag.of?_eq_none_iff.1 h with hnil | hcs
  · simp [nameOf?, hsign, hnil]
  · simp only [nameOf?, hsign, hcs, hfold]
    rfl

theorem mem_entries_iff : name ∈ entries raws ↔ ∃ raw ∈ raws, nameOf? raw = some name := by
  rw [entries, List.mem_eraseDups, List.mem_filterMap]

/-- The folded name of a tag is more than the sign. -/
theorem folded_ne_sign (ht : Tag.IsName t.name.toList) : t.folded ≠ "@" := by
  obtain ⟨cs, hname⟩ := List.head?_eq_some_iff.1 ht.sign
  have hsign : Text.foldChar sigil = [sigil] := by decide
  have hfolded : t.folded.toList = sigil :: cs.flatMap Text.foldChar := by
    rw [t.folded_eq, Text.fold, String.toList_ofList, hname, List.flatMap_cons, hsign]
    rfl
  intro h
  rw [h] at hfolded
  have hrest : cs.flatMap Text.foldChar = [] := (List.tail_eq_of_cons_eq hfolded).symm
  cases cs with
  | nil => exact ht.more hname
  | cons c cs =>
    rw [List.flatMap_cons, List.append_eq_nil_iff] at hrest
    exact Text.foldChar_ne_nil c hrest.1

/-- The names that raw names put into a list are those of the tags that they make, as far as tags
can tell. -/
theorem folded_mem_entries_iff (ht : Tag.IsName t.name.toList) : t.folded ∈ entries raws ↔
    ∃ raw ∈ raws, ∃ u, Tag.of? raw = some u ∧ t.same u = true := by
  rw [mem_entries_iff]
  refine exists_congr fun raw => and_congr_right fun _ => ?_
  cases hof : Tag.of? raw with
  | some u =>
    rw [nameOf?_of_of? hof, Option.some_inj]
    constructor
    · intro h
      exact ⟨u, rfl, Tag.same_iff.2 h.symm⟩
    · rintro ⟨v, hv, hsame⟩
      rw [Option.some.inj hv]
      exact (Tag.same_iff.1 hsame).symm
  | none =>
    rw [nameOf?_of_of?_eq_none hof]
    have hne := folded_ne_sign ht
    split <;> simp [hne.symm]

theorem entries_eq_nil_iff :
    entries raws = [] ↔ ∀ raw ∈ raws, Tag.of? raw = none ∧ Text.trim raw ≠ "@" := by
  simp only [List.eq_nil_iff_forall_not_mem, mem_entries_iff, not_exists, not_and]
  constructor
  · intro h raw hraw
    cases hof : Tag.of? raw with
    | some u => exact absurd (nameOf?_of_of? hof) (h _ raw hraw)
    | none =>
      refine ⟨rfl, fun hsign => h "@" raw hraw ?_⟩
      rw [nameOf?_of_of?_eq_none hof, if_pos hsign]
  · intro h name raw hraw
    rw [nameOf?_of_of?_eq_none (h raw hraw).1, if_neg (h raw hraw).2]
    exact Option.some_ne_none name ∘ Eq.symm

/-- A list in which one item is repeated has one item. -/
theorem eraseDups_eq_singleton {a : String} {as : List String} (hne : as ≠ [])
    (h : ∀ b ∈ as, b = a) : as.eraseDups = [a] := by
  obtain ⟨b, bs, rfl⟩ := List.exists_cons_of_ne_nil hne
  obtain rfl : b = a := h b (List.mem_cons_self ..)
  have hbs : bs.filter (fun c => !c == b) = [] := by
    rw [List.filter_eq_nil_iff]
    intro c hc
    simp [h c (List.mem_cons_of_mem _ hc)]
  rw [List.eraseDups_cons, hbs, List.eraseDups_nil]

/-- Bare signs make an entry, which no tag has. -/
theorem entries_of_signOnly (h : SignOnly raws) : entries raws = ["@"] := by
  obtain ⟨hnone, raw, hraw, hsign⟩ := h
  refine eraseDups_eq_singleton ?_ ?_
  · have hmem : "@" ∈ raws.filterMap nameOf? := by
      rw [List.mem_filterMap]
      refine ⟨raw, hraw, ?_⟩
      rw [nameOf?_of_of?_eq_none (hnone raw hraw), if_pos hsign]
    exact List.ne_nil_of_mem hmem
  · intro name hname
    obtain ⟨raw', hraw', hof⟩ := List.mem_filterMap.1 hname
    rw [nameOf?_of_of?_eq_none (hnone raw' hraw')] at hof
    split at hof
    · exact (Option.some.inj hof).symm
    · cases hof

/-! ## Replaced lists -/

/-- Whether raw names replace a list by the tags among them: if there are none the list stays, and
otherwise it has a tag exactly if one of the raw names makes it. -/
structure ReplacedByTags (raws : List String) (stays : Prop) (has : Tag → Prop) : Prop where
  stays : (∀ raw ∈ raws, Tag.of? raw = none) → stays
  replaced : (∃ raw ∈ raws, Tag.of? raw ≠ none) → ∀ t : Tag, Tag.IsName t.name.toList →
    (has t ↔ ∃ raw ∈ raws, ∃ u, Tag.of? raw = some u ∧ t.same u = true)

/-- A list of a taxonomy is replaced by the tags among raw names unless these are bare signs. -/
theorem replacedByTags_iff {current : List String} :
    ReplacedByTags raws (replaced current (entries raws) = current)
        (fun t => t.folded ∈ replaced current (entries raws)) ↔
      (SignOnly raws → current = ["@"]) := by
  constructor
  · intro h hsign
    have hstays := h.stays hsign.1
    rw [entries_of_signOnly hsign] at hstays
    exact hstays.symm
  · intro h
    refine ⟨fun hnone => ?_, fun hsome t ht => ?_⟩
    · by_cases hsign : SignOnly raws
      · rw [entries_of_signOnly hsign, h hsign]
        rfl
      · have hblank : entries raws = [] := by
          rw [entries_eq_nil_iff]
          exact fun raw hraw => ⟨hnone raw hraw, fun hr => hsign ⟨hnone, raw, hraw, hr⟩⟩
        rw [replaced, if_pos hblank]
    · have hne : entries raws ≠ [] := by
        rw [ne_eq, entries_eq_nil_iff]
        intro hnone
        obtain ⟨raw, hraw, hof⟩ := hsome
        exact hof (hnone raw hraw).1
      rw [replaced, if_neg hne]
      exact folded_mem_entries_iff ht

end Taxonomy

namespace Criteria

variable {raws : List String} {t : Tag}

theorem mentioned_tagsOf_iff : t.mentioned (tagsOf raws) = true ↔
    ∃ raw ∈ raws, ∃ u, Tag.of? raw = some u ∧ t.same u = true := by
  rw [tagsOf, Tag.mentioned_distinct, Tag.mentioned, List.any_eq_true]
  simp only [List.mem_filterMap]
  constructor
  · rintro ⟨u, ⟨raw, hraw, hof⟩, hsame⟩
    exact ⟨raw, hraw, u, hof, hsame⟩
  · rintro ⟨raw, hraw, u, hof, hsame⟩
    exact ⟨u, ⟨raw, hraw, hof⟩, hsame⟩

theorem tagsOf_eq_nil_iff : tagsOf raws = [] ↔ ∀ raw ∈ raws, Tag.of? raw = none := by
  rw [tagsOf, ← List.filterMap_eq_nil_iff]
  cases raws.filterMap Tag.of? with
  | nil => simp [Tag.distinct]
  | cons u us => simp [Tag.distinct]

/-- The tags that say little are replaced by the tags among raw names. -/
theorem replacedByTags_orElse (current : List Tag) :
    Taxonomy.ReplacedByTags raws (Config.orElse (tagsOf raws) current = current)
      fun t => t.mentioned (Config.orElse (tagsOf raws) current) = true := by
  refine ⟨fun hnone => ?_, fun hsome t _ => ?_⟩
  · rw [tagsOf_eq_nil_iff.2 hnone]
    rfl
  · have hne : (tagsOf raws).isEmpty = false := by
      rw [List.isEmpty_eq_false_iff, ne_eq, tagsOf_eq_nil_iff]
      intro hnone
      obtain ⟨raw, hraw, hof⟩ := hsome
      exact hof (hnone raw hraw)
    rw [Config.orElse, hne, if_neg Bool.false_ne_true]
    exact mentioned_tagsOf_iff

end Criteria

namespace Taxonomy

/-- **Which names replace a category.** The names of a category are replaced by the tags among raw
names exactly if these are not bare signs without a tag, or the bare sign is all that the category
had. Otherwise the bare sign is all that is left, so no tag is of the category any more. The names for
one category have no effect on the others. The tags that say little are always replaced by the tags
among the names that a document has for them. -/
theorem overridden_exact [PatternEngine] (taxonomy : Taxonomy) (overrides : Tag.Category → List String)
    {category : Tag.Category} (hcategory : category ≠ .other) :
    let t := taxonomy.overridden overrides
    (ReplacedByTags (overrides category) (t.list category = taxonomy.list category)
        (fun tag => tag.folded ∈ t.list category) ↔
      (SignOnly (overrides category) → taxonomy.list category = ["@"])) ∧
    (SignOnly (overrides category) → t.list category = ["@"] ∧
      ∀ tag : Tag, Tag.IsName tag.name.toList → t.categoryOf tag ≠ category) ∧
    (∀ raws another, another ≠ category →
      (taxonomy.overridden (Function.update overrides category raws)).list another =
        t.list another) ∧
    ∀ d : Config.Document, ReplacedByTags (Config.namesInAll d.lowValue)
      ((Config.ofDocument d).lowValue = Criteria.standard.lowValue)
      (fun tag => (Config.ofDocument d).isLowValue tag = true) := by
  intro t
  have hlist : t.list category = replaced (taxonomy.list category) (entries (overrides category)) :=
    list_overridden overrides hcategory
  refine ⟨?_, ?_, ?_, ?_⟩
  · rw [hlist]
    exact replacedByTags_iff
  · intro hsign
    have hsigns : t.list category = ["@"] := by
      rw [hlist, entries_of_signOnly hsign]
      rfl
    refine ⟨hsigns, fun tag htag hof => ?_⟩
    have hmem := folded_mem_list_of_categoryOf hof hcategory
    rw [hsigns, List.mem_singleton] at hmem
    exact folded_ne_sign htag hmem
  · intro raws another hne
    by_cases hlisted : another = .other
    · rw [hlisted]
      rfl
    · rw [list_overridden _ hlisted, list_overridden _ hlisted, Function.update_of_ne hne]
  · intro d
    exact Criteria.replacedByTags_orElse _

/-- Names for the priorities alone, one of them a bare sign. -/
def urgent : Tag.Category → List String
  | .priority => [" Urgent", "@ ", "@LATER\t"]
  | _ => []

theorem overridden_exact_urgent : Tag.Category.priority ≠ .other ∧
    ReplacedByTags (urgent .priority)
      ((standard.overridden urgent).list .priority = standard.list .priority)
      (fun tag => tag.folded ∈ (standard.overridden urgent).list .priority) ∧
    (standard.overridden urgent).list .status = standard.list .status ∧
    (Tag.named "@later").folded ∈ (standard.overridden urgent).list .priority ∧
    (Tag.named "@P0").folded ∉ (standard.overridden urgent).list .priority := by
  have hcategory : Tag.Category.priority ≠ .other := by decide
  obtain ⟨hreplaced, -, hothers, -⟩ := overridden_exact standard urgent hcategory
  have hsign : ¬ SignOnly (urgent .priority) := by decide +kernel
  refine ⟨hcategory, hreplaced.2 fun h => absurd h hsign, ?_, by decide +kernel, by decide +kernel⟩
  have hstatus := hothers [] .status (by decide)
  rw [← hstatus]
  rfl

/-- A document that has the bare sign for the priorities and for the tags that say little. -/
def bareSigns : Value :=
  .table [("tags", .table [("priority", .list [.text "@"]), ("low_value", .list [.text "@"])])]

/-- A bare sign makes no tag and leaves the tags that say little as they are, but it replaces the
priorities. -/
theorem overridden_bareSigns :
    (∀ raw ∈ ["@"], Tag.of? raw = none) ∧
      (standard.overridden fun _ => ["@"]).list .priority ≠ standard.list .priority ∧
      ¬ ReplacedByTags ["@"]
        ((standard.overridden fun _ => ["@"]).list .priority = standard.list .priority)
        (fun tag => tag.folded ∈ (standard.overridden fun _ => ["@"]).list .priority) ∧
      ∃ c, Config.ofValue bareSigns = .ok (c, []) ∧
        c.taxonomy.list .priority = ["@"] ∧ c.lowValue = Criteria.standard.lowValue := by
  have hnone : ∀ raw ∈ ["@"], Tag.of? raw = none := by decide
  have hchanged : (standard.overridden fun _ => ["@"]).list .priority ≠ standard.list .priority := by
    decide +kernel
  exact ⟨hnone, hchanged, fun h => hchanged (h.stays hnone), _, rfl, by decide +kernel,
    by decide +kernel⟩

end Taxonomy

end FeatureAudit
