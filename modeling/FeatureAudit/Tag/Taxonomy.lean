import FeatureAudit.Tag
import FeatureAudit.Text.Order

/-!
# Taxonomy of tags

Closed lists of names decide whether a tag tells priority, type or status. A list can be replaced
by a list of one's own.
-/

set_option autoImplicit false

namespace FeatureAudit

namespace Tag

/-- What a tag tells about a scenario. -/
inductive Category where
  /-- How urgent it is. -/
  | priority
  /-- What kind of test it is. -/
  | type
  /-- In which state it is. -/
  | status
  /-- Anything else. -/
  | other
  deriving DecidableEq, Repr

/-- The place of a category in sorted views. -/
def Category.rank : Category → Nat
  | .priority => 0
  | .type => 1
  | .status => 2
  | .other => 3

/-- The name of a category. -/
def Category.name : Category → String
  | .priority => "PRIORITY"
  | .type => "TYPE"
  | .status => "STATUS"
  | .other => "OTHER"

/-- All categories in order. -/
def Category.all : List Category := [.priority, .type, .status, .other]

/-- The category of a name. -/
def Category.ofName? (s : String) : Option Category := Category.all.find? fun c => c.name == s

end Tag

/-- Folded names with their sign, for each category but the last. -/
structure Taxonomy where
  /-- Names that tell priority. -/
  priority : List String
  /-- Names that tell the type. -/
  type : List String
  /-- Names that tell the status. -/
  status : List String
  deriving DecidableEq, Repr

namespace Taxonomy

/-- The folded form of a raw name with its sign, unless it is blank. -/
def nameOf? (raw : String) : Option String :=
  let cs := Text.trimChars raw.toList
  if cs = [] then none
  else some (String.ofList ((Tag.withSigil cs).flatMap Text.foldChar))

/-- The folded forms of raw names, each once. -/
def entries (raws : List String) : List String := (raws.filterMap nameOf?).eraseDups

/-- The taxonomy of three lists of raw names. -/
def ofNames (priority type status : List String) : Taxonomy :=
  ⟨entries priority, entries type, entries status⟩

/-- The new list unless it is empty, the current one otherwise. -/
def replaced (current new : List String) : List String := if new = [] then current else new

/-- Replaces every list for which there are names. -/
def withOverrides (t : Taxonomy) (priority type status : List String) : Taxonomy :=
  ⟨replaced t.priority (entries priority), replaced t.type (entries type),
    replaced t.status (entries status)⟩

/-- The category of a tag; the first list that has its name decides. -/
def categoryOf (t : Taxonomy) (tag : Tag) : Tag.Category :=
  if tag.folded ∈ t.priority then .priority
  else if tag.folded ∈ t.type then .type
  else if tag.folded ∈ t.status then .status
  else .other

/-- The names in use. -/
def standard : Taxonomy :=
  ofNames
    ["@P0", "@P1", "@P2", "@P3", "@P4", "@Critical", "@High", "@Medium", "@Low", "@Priority0",
      "@Priority1", "@Priority2", "@Priority3"]
    ["@UI", "@API", "@Backend", "@Frontend", "@Integration", "@Unit", "@Performance", "@Security",
      "@Regression", "@Smoke", "@E2E", "@Functional", "@Acceptance", "@System", "@Component"]
    ["@WIP", "@Ready", "@Review", "@Flaky", "@Deprecated", "@Legacy", "@Todo", "@Debug",
      "@InProgress", "@Completed", "@Blocked"]

/-- Whether two lists have the same members. -/
def sameMembers (xs ys : List String) : Bool :=
  xs.all (fun x => ys.contains x) && ys.all (fun y => xs.contains y)

/-- Whether two taxonomies have the same names in every category. -/
def agrees (t u : Taxonomy) : Bool :=
  sameMembers t.priority u.priority && sameMembers t.type u.type && sameMembers t.status u.status

end Taxonomy

namespace Tag

/-- Order by folded name, then by spelling. -/
def compareNames (t u : Tag) : Ordering :=
  (Text.compareTexts t.folded u.folded).then (Text.compareTexts t.name u.name)

/-- Order by category, then by folded name, then by spelling. -/
def compareIn (taxonomy : Taxonomy) (t u : Tag) : Ordering :=
  (Text.compareNats (taxonomy.categoryOf t).rank (taxonomy.categoryOf u).rank).then
    (compareNames t u)

end Tag

end FeatureAudit
